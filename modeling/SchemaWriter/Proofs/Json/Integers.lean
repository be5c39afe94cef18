import SchemaWriter.Json.Fault
import SchemaWriter.Proofs.Json.Lexed

namespace SchemaWriter.Json

def decimalDigits (n : Nat) : List Nat :=
  (Nat.toDigits 10 n).map fun c => c.toNat - '0'.toNat

theorem decimalValue_decimalDigits (n : Nat) : decimalValue (decimalDigits n) = n := by
  rw [decimalValue, decimalDigits, List.foldl_map]
  exact Nat.ofDigitChars_ten_toDigits

theorem decimalDigits_of_lt {n : Nat} (h : n < 10) : decimalDigits n = [n] := by
  rw [decimalDigits, Nat.toDigits_of_lt_base h, List.map_singleton]
  exact congrArg (fun d => [d]) (Nat.toNat_digitChar_sub_48_of_lt_ten h)

theorem decimalDigits_append {n d : Nat} (hn : 0 < n) (hd : d < 10) :
    decimalDigits (10 * n + d) = decimalDigits n ++ [d] := by
  rw [← decimalDigits_of_lt hd, decimalDigits, ← Nat.toDigits_append_toDigits (by decide) hn hd,
    List.map_append]
  rfl

theorem head?_decimalDigits {n : Nat} (h : 0 < n) :
    ∃ d, 0 < d ∧ (decimalDigits n).head? = some d := by
  induction n using Nat.base_induction 10 (by decide) with
  | single n hn => exact ⟨n, h, by rw [decimalDigits_of_lt hn]; rfl⟩
  | digit n d hd hn ih =>
    obtain ⟨first, hfirst, hhead⟩ := ih hn
    refine ⟨first, hfirst, ?_⟩
    rw [decimalDigits_append hn hd, List.head?_append, hhead]
    rfl

theorem takeDigits_map {cs : List Char} (h : ∀ c ∈ cs, c.isDigit = true) :
    takeDigits (cs.map some) = (cs.map fun c => c.toNat - '0'.toNat, []) := by
  induction cs with
  | nil => rfl
  | cons c cs ih =>
    obtain ⟨hc, hcs⟩ := List.forall_mem_cons.mp h
    simp [takeDigits, digit?, hc, ih hcs]

theorem wholeDigits?_toDigits (n : Nat) :
    wholeDigits? ((Nat.toDigits 10 n).map some) = some (decimalDigits n, []) := by
  have hall : ∀ c ∈ Nat.toDigits 10 n, c.isDigit = true :=
    fun c => Nat.isDigit_of_mem_toDigits (by decide) (by decide)
  rw [wholeDigits?, takeDigits_map hall, ← decimalDigits]
  rcases Nat.eq_zero_or_pos n with rfl | hn
  · rfl
  · obtain ⟨first, hfirst, hhead⟩ := head?_decimalDigits hn
    obtain ⟨digits, hdigits⟩ := List.head?_eq_some_iff.mp hhead
    rw [hdigits]
    cases first with
    | zero => cases hfirst
    | succ first => rfl

theorem numeral?_toDigits (negative : Bool) (n : Nat) :
    numeral? negative ((Nat.toDigits 10 n).map some) =
      some (⟨negative, decimalDigits n, [], none⟩, []) := by
  simp [numeral?, wholeDigits?_toDigits, fractionDigits?, exponent?]

namespace Numeral

def ofInt (value : Int) : Numeral :=
  ⟨decide (value < 0), decimalDigits value.natAbs, [], none⟩

theorem le_foldl (significand : Nat) (digits : List Nat) :
    significand ≤ digits.foldl (fun n d => 10 * n + d) significand := by
  induction digits generalizing significand with
  | nil => exact Nat.le_refl _
  | cons d digits ih =>
    have hnext : significand ≤ 10 * significand + d := by omega
    exact hnext.trans (ih _)

theorem extend_eq {significand : Nat} {digits : List Nat}
    (h : digits.foldl (fun n d => 10 * n + d) significand < 0x10000000000000000) :
    extend significand digits = (digits.foldl (fun n d => 10 * n + d) significand, []) := by
  induction digits generalizing significand with
  | nil => rfl
  | cons d digits ih =>
    have hnext : 10 * significand + d < Nat.pow 2 64 := (le_foldl _ digits).trans_lt h
    rw [extend, if_pos hnext, ih h, List.foldl_cons]

theorem extend_decimalDigits {n : Nat} (h : n < 0x10000000000000000) :
    extend 0 (decimalDigits n) = (n, []) := by
  have hvalue := decimalValue_decimalDigits n
  rw [decimalValue] at hvalue
  rw [extend_eq (by rwa [hvalue]), hvalue]

theorem value?_natural {n : Nat} (h : n < 0x10000000000000000) :
    value? ⟨false, decimalDigits n, [], none⟩ = some (.integer n) := by
  rw [value?]
  simp only [extend_decimalDigits h]
  rfl

theorem value?_negative {n : Nat} (hmin : 0 < n) (hmax : n ≤ 0x8000000000000000) :
    value? ⟨true, decimalDigits n, [], none⟩ = some (.integer (-n)) := by
  have hsize : n < 0x10000000000000000 := by omega
  have hbound : (decide (0 < n) && decide (n ≤ Nat.pow 2 63)) = true :=
    Bool.and_eq_true_iff.mpr ⟨decide_eq_true hmin, decide_eq_true hmax⟩
  rw [value?]
  simp only [extend_decimalDigits hsize]
  exact if_pos hbound

theorem value?_ofInt {value : Int} (hmin : -0x8000000000000000 ≤ value)
    (hmax : value < 0x10000000000000000) :
    (ofInt value).value? = some (.integer value) := by
  rw [ofInt]
  by_cases hsign : value < 0
  · have hback : -(value.natAbs : Int) = value := by omega
    rw [decide_eq_true hsign, value?_negative (by omega) (by omega), hback]
  · have hback : (value.natAbs : Int) = value := by omega
    rw [decide_eq_false hsign, value?_natural (by omega), hback]

end Numeral

theorem isSpace_of_isDigit {c : Char} (h : c.isDigit = true) : isSpace c = false := by
  cases hspace : isSpace c with
  | false => rfl
  | true =>
    simp only [isSpace, Bool.or_eq_true, decide_eq_true_eq] at hspace
    obtain ((rfl | rfl) | rfl) | rfl := hspace <;> cases h

theorem tokens_toDigits (n : Nat) : tokens ((Nat.toDigits 10 n).map some) =
    [.number ⟨false, decimalDigits n, [], none⟩] := by
  match hdigits : Nat.toDigits 10 n with
  | [] => exact absurd hdigits Nat.toDigits_ne_nil
  | c :: cs =>
    have hc : c.isDigit = true :=
      Nat.isDigit_of_mem_toDigits (by decide) (by decide) (hdigits ▸ List.mem_cons_self)
    have hnumeral := numeral?_toDigits false n
    rw [hdigits, List.map_cons] at hnumeral
    rw [List.map_cons, tokens_cons (isSpace_of_isDigit hc), Token.read_of_isDigit hc, hnumeral]
    rfl

theorem tokens_minus (n : Nat) : tokens (some '-' :: (Nat.toDigits 10 n).map some) =
    [.number ⟨true, decimalDigits n, [], none⟩] := by
  rw [tokens_cons rfl, Token.read_minus, numeral?_toDigits]
  rfl

theorem tokens_integer (value : Int) :
    tokens (glyphs (toString value)) = [.number (.ofInt value)] := by
  rw [Int.toString_eq_repr, Int.repr_eq_if, Numeral.ofInt, glyphs]
  by_cases hsign : value < 0
  · have hsize : (-value).toNat = value.natAbs := by omega
    rw [if_neg (Int.not_le.mpr hsign), String.toList_append, Nat.toList_repr, hsize,
      decide_eq_true hsign]
    exact tokens_minus value.natAbs
  · have hsize : value.toNat = value.natAbs := by omega
    rw [if_pos (Int.not_lt.mp hsign), Nat.toList_repr, hsize, decide_eq_false hsign]
    exact tokens_toDigits value.natAbs

end SchemaWriter.Json
