import ValkeyClusterProxy.Proto.Resp
import Mathlib.Data.Nat.Digits

/-!
# The Go string functions the proxy calls

`doReload` splits the `CLUSTER NODES` payload with `strings.TrimSpace`, `strings.Split` and
`strings.SplitN`, and builds the local address prefix with `strings.Join`;
`ParseRedirectInfo` cuts a redirection with `strings.Fields` and `strconv.Atoi`.  Each
function is given here for the one-byte separators the proxy passes, following the Go
standard library's own definitions, since the parsing claims turn on their edge cases (the
piece counts of `genSplit`, the empty input).  The last lemmas read back what `Fields` and
`Atoi` make of words and of a number printed in decimal.
-/

namespace ValkeyClusterProxy.Go

open Proto

/-- `unicode.IsSpace`: the Latin-1 spaces and the other `White_Space` code points. -/
def isSpace (c : Char) : Bool :=
  c.toNat ∈ [0x09, 0x0A, 0x0B, 0x0C, 0x0D, 0x20, 0x85, 0xA0, 0x1680, 0x2028, 0x2029,
    0x202F, 0x205F, 0x3000] || (0x2000 ≤ c.toNat && c.toNat ≤ 0x200A)

/-- `strings.SplitN(s, sep, n)` for `n ≥ 0`: the pieces between the first `n - 1`
separators, the last piece keeping the rest of `s`, and no piece for `n = 0`. -/
def splitN (sep : Char) : Nat → Bytes → List Bytes
  | 0, _ => []
  | 1, s => [s]
  | n + 2, s =>
      if sep ∈ s then
        s.takeWhile (· != sep) :: splitN sep (n + 1) (s.dropWhile (· != sep)).tail
      else
        [s]

/-- `strings.Split(s, sep)`: `genSplit` with `n = Count(s, sep) + 1`, so that every
separator splits. -/
def split (sep : Char) (s : Bytes) : List Bytes :=
  splitN sep (s.count sep + 1) s

/-- `strings.TrimSpace`. -/
def trimSpace (s : Bytes) : Bytes :=
  ((s.dropWhile isSpace).reverse.dropWhile isSpace).reverse

/-- `strings.Contains(s, substr)`: some suffix of `s` starts with `substr`. -/
def contains (s substr : Bytes) : Bool :=
  s.tails.any substr.isPrefixOf

/-- `strings.Fields`: the maximal runs of non-space characters. -/
def fields (s : Bytes) : List Bytes :=
  (s.splitOnP isSpace).filter (!·.isEmpty)

/-- `strings.Join(elems, sep)`. -/
def join (elems : List Bytes) (sep : Char) : Bytes :=
  [sep].intercalate elems

/-- `strconv.Atoi`: an optional sign and at least one decimal digit, in the range of a
64-bit `int` (the bound is `2 ^ 63`). -/
def atoi (s : Bytes) : Option Int :=
  let (negative, digits) : Bool × Bytes :=
    match s with
    | '-' :: rest => (true, rest)
    | '+' :: rest => (false, rest)
    | _ => (false, s)
  if !digits.isEmpty && digits.all Char.isDigit then
    let magnitude := digits.foldl (fun acc c => 10 * acc + (c.toNat - '0'.toNat)) 0
    if negative then
      if magnitude ≤ 9223372036854775808 then some (-(magnitude : Int)) else none
    else if magnitude < 9223372036854775808 then some (magnitude : Int) else none
  else
    none

/-- Cutting `s` at its first separator leaves one separator fewer. -/
theorem count_dropWhile_tail {sep : Char} {s : Bytes} (member : sep ∈ s) :
    s.count sep = ((s.dropWhile (· != sep)).tail).count sep + 1 := by
  induction s with
  | nil => simp at member
  | cons c rest ih =>
      by_cases atHead : c = sep
      · subst atHead
        simp [List.dropWhile]
      · have inRest : sep ∈ rest := by simpa [Ne.symm atHead] using member
        have kept : (c != sep) = true := bne_iff_ne.mpr atHead
        simp [List.dropWhile, kept, atHead, List.count_cons, ih inRest]

/-- `SplitN` with limit `n + 1` returns one piece more than the separators it cuts at,
which are the first `n` of them. -/
theorem length_splitN (sep : Char) (n : Nat) (s : Bytes) :
    (splitN sep (n + 1) s).length = min (s.count sep) n + 1 := by
  induction n generalizing s with
  | zero => simp [splitN]
  | succ n ih =>
      by_cases member : sep ∈ s
      · rw [splitN, if_pos member, List.length_cons, ih, count_dropWhile_tail member]
        omega
      · simp [splitN, member, List.count_eq_zero_of_not_mem member]

/-- A digit is no space. -/
theorem isSpace_of_isDigit {c : Char} (digit : c.isDigit = true) : isSpace c = false := by
  simp only [Char.isDigit, Bool.and_eq_true, decide_eq_true_eq] at digit
  have range : 48 ≤ c.toNat ∧ c.toNat ≤ 57 := ⟨digit.1, digit.2⟩
  simp only [isSpace, Bool.or_eq_false_iff, Bool.and_eq_false_iff, decide_eq_false_iff_not,
    List.mem_cons, List.mem_singleton, List.not_mem_nil, or_false, not_or, not_le]
  omega

/-- A word without spaces, then a space, is the first field of what follows. -/
theorem fields_word_space {word : Bytes} (nonEmpty : word ≠ [])
    (solid : ∀ c ∈ word, isSpace c = false) {sep : Char} (space : isSpace sep = true)
    (rest : Bytes) : fields (word ++ sep :: rest) = word :: fields rest := by
  have split := List.splitOnP_first isSpace word (fun c member => by simp [solid c member])
    sep space rest
  simp [fields, split, nonEmpty]

/-- A word without spaces, then a line end, is one field. -/
theorem fields_word_crlf {word : Bytes} (nonEmpty : word ≠ [])
    (solid : ∀ c ∈ word, isSpace c = false) : fields (word ++ crlf) = [word] := by
  rw [crlf, fields_word_space nonEmpty solid (by decide)]
  rfl

/-- The value `Atoi` gives a string of decimal digits. -/
def decimalValue (digits : Bytes) : Nat :=
  digits.foldl (fun acc c => 10 * acc + (c.toNat - '0'.toNat)) 0

theorem decimalValue_append_singleton (digits : Bytes) (c : Char) :
    decimalValue (digits ++ [c]) = 10 * decimalValue digits + (c.toNat - '0'.toNat) := by
  simp [decimalValue]

/-- `Atoi` of unsigned decimal digits is their value, when it fits an `int`. -/
theorem atoi_of_digits {s : Bytes} (nonEmpty : s ≠ []) (allDigits : ∀ c ∈ s, c.isDigit = true)
    (bound : decimalValue s < 9223372036854775808) : atoi s = some (decimalValue s : Nat) := by
  have unsigned : ∀ rest, s ≠ '-' :: rest ∧ s ≠ '+' :: rest := fun rest => by
    constructor <;> rintro rfl <;> simp [Char.isDigit] at allDigits
  unfold atoi
  split
  next negative digits sign =>
    split at sign
    · exact absurd rfl (unsigned _).1
    · exact absurd rfl (unsigned _).2
    · cases sign
      simpa [List.all_eq_true.mpr allDigits, nonEmpty, decimalValue] using bound

theorem digitChar_spec : ∀ d < 10,
    (Nat.digitChar d).isDigit = true ∧ (Nat.digitChar d).toNat - '0'.toNat = d := by
  decide

/-- The digits `toDigitsCore` puts in front of `ds`, given fuel enough, are decimal digits
whose value is `n`. -/
theorem toDigitsCore_spec (fuel n : Nat) (ds : Bytes) (enough : n < fuel) :
    ∃ digits, Nat.toDigitsCore 10 fuel n ds = digits ++ ds ∧ digits ≠ [] ∧
      (∀ c ∈ digits, c.isDigit = true) ∧ decimalValue digits = n := by
  induction fuel generalizing n ds with
  | zero => omega
  | succ fuel ih =>
      obtain ⟨isDigit, value⟩ := digitChar_spec (n % 10) (Nat.mod_lt n (by decide))
      by_cases last : n / 10 = 0
      · refine ⟨[Nat.digitChar (n % 10)], by simp [Nat.toDigitsCore, last], by simp,
          by simp [isDigit], ?_⟩
        rw [← List.nil_append [_], decimalValue_append_singleton, value]
        show 10 * 0 + n % 10 = n
        omega
      · obtain ⟨digits, eq, -, allDigits, folded⟩ :=
          ih (n / 10) (Nat.digitChar (n % 10) :: ds) (by omega)
        refine ⟨digits ++ [Nat.digitChar (n % 10)], by simp [Nat.toDigitsCore, last, eq], by simp,
          ?_, ?_⟩
        · simp only [List.mem_append, List.mem_singleton]
          rintro c (member | rfl)
          exacts [allDigits c member, isDigit]
        · rw [decimalValue_append_singleton, folded, value]
          omega

/-- The decimal form of `n`, as `strconv.Itoa` and Valkey print it: digits only, none of
them a space, and `Atoi` reads `n` back from it when `n` fits an `int`. -/
theorem toDigits_spec (n : Nat) :
    Nat.toDigits 10 n ≠ [] ∧ (∀ c ∈ Nat.toDigits 10 n, isSpace c = false) ∧
      (n < 9223372036854775808 → atoi (Nat.toDigits 10 n) = some n) := by
  obtain ⟨digits, eq, nonEmpty, allDigits, value⟩ := toDigitsCore_spec (n + 1) n [] (by omega)
  rw [Nat.toDigits, eq, List.append_nil]
  refine ⟨nonEmpty, fun c member => isSpace_of_isDigit (allDigits c member), fun bound => ?_⟩
  rw [atoi_of_digits nonEmpty allDigits (value ▸ bound), value]

example : splitN ' ' 4 "id 10.0.0.1:7000 master - 0".toList =
    ["id".toList, "10.0.0.1:7000".toList, "master".toList, "- 0".toList] := by decide

example : split '\n' [] = [[]] := by decide

end ValkeyClusterProxy.Go
