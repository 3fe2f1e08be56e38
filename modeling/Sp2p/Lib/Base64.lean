import Mathlib.Tactic.Common

/-!
# Base64

The encoding of bytes by the 64 symbols of the usual alphabet, in groups of four symbols for three
bytes, the last group padded. The decoder passes over white space. `decode_encode` is the round
trip; its step is arithmetic on one group.
-/

namespace Base64

/-- The blank, the tab, and the two symbols that end lines. -/
def isSpace (c : UInt8) : Bool := c = 32 || c = 9 || c = 10 || c = 13

def alphabet : List UInt8 :=
  "ABCDEFGHIJKLMNOPQRSTUVWXYZabcdefghijklmnopqrstuvwxyz0123456789+/".toList.map fun c =>
    UInt8.ofNat c.toNat

/-- The symbol `=`. -/
def pad : UInt8 := 61

def symbol (n : Nat) : UInt8 := alphabet.getD n pad

def value? (c : UInt8) : Option Nat := alphabet.findIdx? (· = c)

/-- Six bits of three bytes each, from the left. -/
def encode : List UInt8 → List UInt8
  | [] => []
  | [a] => [symbol (a.toNat / 4), symbol (a.toNat % 4 * 16), pad, pad]
  | [a, b] =>
    [symbol (a.toNat / 4), symbol (a.toNat % 4 * 16 + b.toNat / 16), symbol (b.toNat % 16 * 4), pad]
  | a :: b :: c :: rest =>
    symbol (a.toNat / 4) :: symbol (a.toNat % 4 * 16 + b.toNat / 16) ::
      symbol (b.toNat % 16 * 4 + c.toNat / 64) :: symbol (c.toNat % 64) :: encode rest

/-- The bytes of a text of whole groups; padding ends it. -/
def decodeGroups : List UInt8 → Option (List UInt8)
  | [] => some []
  | c₀ :: c₁ :: c₂ :: c₃ :: rest => do
    let v₀ ← value? c₀
    let v₁ ← value? c₁
    let a := UInt8.ofNat (v₀ * 4 + v₁ / 16)
    if c₂ = pad then
      if c₃ = pad ∧ rest = [] then some [a] else none
    else
      let v₂ ← value? c₂
      let b := UInt8.ofNat (v₁ % 16 * 16 + v₂ / 4)
      if c₃ = pad then
        if rest = [] then some [a, b] else none
      else
        let v₃ ← value? c₃
        let bytes ← decodeGroups rest
        some (a :: b :: UInt8.ofNat (v₂ % 4 * 64 + v₃) :: bytes)
  | _ => none

def decode (text : List UInt8) : Option (List UInt8) := decodeGroups (text.filter (!isSpace ·))

/-! ### Symbols -/

theorem value?_symbol {n : Nat} (h : n < 64) : value? (symbol n) = some n := by
  have hall : ∀ n : Fin 64, value? (symbol n) = some n.val := by decide +kernel
  exact hall ⟨n, h⟩

theorem symbol_ne_pad {n : Nat} (h : n < 64) : symbol n ≠ pad := by
  have hall : ∀ n : Fin 64, symbol n ≠ pad := by decide +kernel
  exact hall ⟨n, h⟩

theorem isSpace_symbol {n : Nat} (h : n < 64) : isSpace (symbol n) = false := by
  have hall : ∀ n : Fin 64, isSpace (symbol n) = false := by decide +kernel
  exact hall ⟨n, h⟩

theorem ofNat_toNat_of_eq {a : UInt8} {n : Nat} (h : n = a.toNat) : UInt8.ofNat n = a := by
  rw [h, UInt8.ofNat_toNat]

/-! ### The encoding -/

theorem length_encode (bytes : List UInt8) : (encode bytes).length = 4 * ((bytes.length + 2) / 3) := by
  fun_induction encode bytes with
  | case1 => rfl
  | case2 a => simp
  | case3 a b => simp
  | case4 a b c rest ih =>
    simp only [List.length_cons, ih]
    omega

theorem isSpace_encode (bytes : List UInt8) : ∀ c ∈ encode bytes, isSpace c = false := by
  fun_induction encode bytes with
  | case1 => simp
  | case2 a =>
    have ha := a.toNat_lt
    intro c hc
    simp only [List.mem_cons, List.not_mem_nil, or_false] at hc
    rcases hc with rfl | rfl | rfl | rfl
    · exact isSpace_symbol (by omega)
    · exact isSpace_symbol (by omega)
    · rfl
    · rfl
  | case3 a b =>
    have ha := a.toNat_lt
    have hb := b.toNat_lt
    intro c hc
    simp only [List.mem_cons, List.not_mem_nil, or_false] at hc
    rcases hc with rfl | rfl | rfl | rfl
    · exact isSpace_symbol (by omega)
    · exact isSpace_symbol (by omega)
    · exact isSpace_symbol (by omega)
    · rfl
  | case4 a b d rest ih =>
    have ha := a.toNat_lt
    have hb := b.toNat_lt
    have hd := d.toNat_lt
    intro c hc
    simp only [List.mem_cons] at hc
    rcases hc with rfl | rfl | rfl | rfl | hc
    · exact isSpace_symbol (by omega)
    · exact isSpace_symbol (by omega)
    · exact isSpace_symbol (by omega)
    · exact isSpace_symbol (by omega)
    · exact ih c hc

/-! ### The round trip -/

theorem decodeGroups_encode (bytes : List UInt8) : decodeGroups (encode bytes) = some bytes := by
  fun_induction encode bytes with
  | case1 => rfl
  | case2 a =>
    have ha := a.toNat_lt
    simp only [decodeGroups, value?_symbol (show a.toNat / 4 < 64 by omega),
      value?_symbol (show a.toNat % 4 * 16 < 64 by omega), Option.bind_eq_bind, Option.bind_some,
      and_self, if_true]
    rw [ofNat_toNat_of_eq (a := a) (by omega)]
  | case3 a b =>
    have ha := a.toNat_lt
    have hb := b.toNat_lt
    have h₂ : b.toNat % 16 * 4 < 64 := by omega
    simp only [decodeGroups, value?_symbol (show a.toNat / 4 < 64 by omega),
      value?_symbol (show a.toNat % 4 * 16 + b.toNat / 16 < 64 by omega), value?_symbol h₂,
      symbol_ne_pad h₂, Option.bind_eq_bind, Option.bind_some, if_true, if_false]
    rw [ofNat_toNat_of_eq (a := a) (by omega), ofNat_toNat_of_eq (a := b) (by omega)]
  | case4 a b c rest ih =>
    have ha := a.toNat_lt
    have hb := b.toNat_lt
    have hc := c.toNat_lt
    have h₂ : b.toNat % 16 * 4 + c.toNat / 64 < 64 := by omega
    have h₃ : c.toNat % 64 < 64 := by omega
    simp only [decodeGroups, value?_symbol (show a.toNat / 4 < 64 by omega),
      value?_symbol (show a.toNat % 4 * 16 + b.toNat / 16 < 64 by omega), value?_symbol h₂,
      value?_symbol h₃, symbol_ne_pad h₂, symbol_ne_pad h₃, ih, Option.bind_eq_bind,
      Option.bind_some, if_false]
    rw [ofNat_toNat_of_eq (a := a) (by omega), ofNat_toNat_of_eq (a := b) (by omega),
      ofNat_toNat_of_eq (a := c) (by omega)]

theorem decode_encode (bytes : List UInt8) : decode (encode bytes) = some bytes := by
  have hkeep : (encode bytes).filter (!isSpace ·) = encode bytes := by
    apply List.filter_eq_self.2
    intro c hc
    rw [isSpace_encode bytes c hc]
    rfl
  rw [decode, hkeep, decodeGroups_encode]

/-- White space makes no difference to the decoder. -/
theorem decode_filter (text : List UInt8) : decode (text.filter (!isSpace ·)) = decode text := by
  unfold decode
  rw [List.filter_filter]
  simp only [Bool.and_self]

end Base64
