import Mathlib.Data.Nat.Digits

/-!
# The C++ library, as the proxy uses it

The parts of the C++ standard library and of Boost whose behaviour the proxy's
results depend on, written as the library computes them:

* `std::string` is a `String` whose characters stand for its bytes; `find` and
  `substr` take and return positions as `size_t`, so `npos + 1` wraps to `0`
  and `0 - 1` to `npos` (`sizeAdd`, `sizeSub`);
* `boost::lexical_cast` to `int` and to `uint64_t` (`lexicalCastInt`,
  `lexicalCastUInt64`), which accept an optional sign and decimal digits and
  throw `bad_lexical_cast` on anything else;
* the text an `std::ostream` writes for an integer, in decimal or, once
  `std::hex` has been set on the stream, in hexadecimal (`putUInt64`).

A computation that throws stops with `Abort.exception`; one that reaches
undefined behaviour (a null pointer handed to the C library, `front()` of an
empty vector) stops with `Abort.undefined`, which no `catch` clause sees.

Rendering an `int` and casting it back gives it again
(`lexicalCastInt_toString`).
-/

namespace MediastorageProxy

/-- How a C++ computation stops early: by throwing an `std::exception`, with
    its `what()`, which a `catch` clause handles; or by undefined behaviour,
    which no `catch` clause sees. -/
inductive Abort
  | exception (what : String)
  | undefined (what : String)
  deriving DecidableEq, Repr

/-- A C++ `int`: a 32-bit signed integer. -/
structure CInt where
  val : Int
  ge : -2 ^ 31 ≤ val
  lt : val < 2 ^ 31
  deriving DecidableEq

instance : ToString CInt := ⟨fun x => toString x.val⟩

instance : Repr CInt := ⟨fun x _ => repr x.val⟩

/-- Groups written as the proxy's log lines write them: separated by `", "`. -/
def joinGroups (gs : List CInt) : String :=
  ", ".intercalate (gs.map toString)

/-! ## `size_t` positions in an `std::string` -/

/-- `std::string::npos`, the largest `size_t`. -/
def npos : Nat := 2 ^ 64 - 1

/-- `a + b` on `size_t`. -/
def sizeAdd (a b : Nat) : Nat := (a + b) % 2 ^ 64

/-- `a - b` on `size_t`, for `b` a `size_t`. -/
def sizeSub (a b : Nat) : Nat := (a + 2 ^ 64 - b) % 2 ^ 64

/-- `s.find(c, pos)`: the first position from `pos` on that holds `c`, or
    `npos`. -/
def find (s : String) (c : Char) (pos : Nat) : Nat :=
  (((s.data.drop pos).findIdx? (· == c)).map (· + pos)).getD npos

/-- `s.substr(pos, count)`: at most `count` characters from `pos` on; it throws
    `std::out_of_range` when `pos` is past the end. -/
def substr (s : String) (pos count : Nat) : Except Abort String :=
  if pos ≤ s.length then .ok ⟨(s.data.drop pos).take count⟩
  else
    let size := s.length
    .error (.exception s!"basic_string::substr: __pos (which is {pos}) > this->size() (which is {size})")

@[simp] theorem length_data (s : String) : s.data.length = s.length := rfl

theorem findIdx?_eq_none_of_not_mem {l : List Char} {c : Char} (hc : c ∉ l) :
    l.findIdx? (· == c) = none := by
  simp only [List.findIdx?_eq_none_iff]
  intro x hx
  exact beq_false_of_ne fun h => hc (h ▸ hx)

theorem find_of_eq_append {s : String} {c : Char} {pos : Nat} {l r : List Char}
    (hs : s.data = l ++ c :: r) (hpos : pos ≤ l.length) (hc : c ∉ l.drop pos) :
    find s c pos = l.length := by
  simp only [find, hs, List.drop_append_of_le_length hpos, List.findIdx?_append,
    findIdx?_eq_none_of_not_mem hc]
  simp
  omega

theorem find_of_not_mem {s : String} {c : Char} {pos : Nat} (hc : c ∉ s.data.drop pos) :
    find s c pos = npos := by
  simp [find, findIdx?_eq_none_of_not_mem hc]

/-- A `find` from the start that does not fail stops at the first occurrence. -/
theorem find_zero_of_ne_npos {s : String} {c : Char} (h : find s c 0 ≠ npos) :
    ∃ l r, s.data = l ++ c :: r ∧ c ∉ l ∧ find s c 0 = l.length := by
  have hc : c ∈ s.data := by
    by_contra hc
    exact h (find_of_not_mem (by simpa using hc))
  obtain ⟨l, r, hs, hl⟩ := List.eq_append_cons_of_mem hc
  exact ⟨l, r, hs, hl, find_of_eq_append hs (Nat.zero_le _) (by simpa using hl)⟩

/-- Two cuts of one list at a first occurrence of `c` are the same cut. -/
theorem append_cons_inj_of_not_mem {c : Char} {l₁ l₂ r₁ r₂ : List Char}
    (h : l₁ ++ c :: r₁ = l₂ ++ c :: r₂) (h₁ : c ∉ l₁) (h₂ : c ∉ l₂) : l₁ = l₂ ∧ r₁ = r₂ := by
  rcases List.append_eq_append_iff.mp h with ⟨_ | ⟨x, a⟩, rfl, ha⟩ | ⟨_ | ⟨x, a⟩, rfl, ha⟩
  · simpa using ha
  · obtain ⟨rfl, -⟩ := List.cons.inj ha
    simp at h₂
  · simpa [eq_comm] using ha
  · obtain ⟨rfl, -⟩ := List.cons.inj ha
    simp at h₁

theorem find_lt_or_npos (s : String) (c : Char) (pos : Nat) :
    find s c pos = npos ∨ find s c pos < s.length := by
  unfold find
  cases h : (s.data.drop pos).findIdx? (· == c) with
  | none => exact .inl rfl
  | some i =>
    have := (List.findIdx?_eq_some_iff_findIdx_eq.mp h).1
    simp only [List.length_drop, length_data] at this
    exact .inr (by simp only [Option.map_some', Option.getD_some]; omega)

theorem substr_of_eq_append {s : String} {l m r : List Char} (hs : s.data = l ++ m ++ r) :
    substr s l.length m.length = .ok ⟨m⟩ := by
  have hle : l.length ≤ s.length := by simp [← length_data, hs]
  simp [substr, hle, hs, List.drop_left', List.take_left']

theorem substr_of_le {s : String} {pos count : Nat} (hpos : pos ≤ s.length)
    (hcount : s.length - pos ≤ count) : substr s pos count = .ok ⟨s.data.drop pos⟩ := by
  have : (s.data.drop pos).length ≤ count := by simpa using hcount
  simp [substr, hpos, List.take_of_length_le this]

theorem substr_ok_of_le {s : String} {pos : Nat} (count : Nat) (hpos : pos ≤ s.length) :
    substr s pos count = .ok ⟨(s.data.drop pos).take count⟩ := by
  simp [substr, hpos]

/-! ## `boost::lexical_cast` -/

/-- Outcomes of fallible code compare by value, so that a run on given inputs
    can be checked by `decide`. -/
instance instDecidableEqExcept {ε α : Type} [DecidableEq ε] [DecidableEq α] :
    DecidableEq (Except ε α)
  | .error e, .error e' => decidable_of_iff (e = e') (by simp)
  | .ok a, .ok a' => decidable_of_iff (a = a') (by simp)
  | .error _, .ok _ => isFalse (by simp)
  | .ok _, .error _ => isFalse (by simp)

/-- What `bad_lexical_cast::what()` says. -/
def badLexicalCast : Abort :=
  .exception "bad lexical cast: source type value could not be interpreted as target"

/-- Whether a numeral is negative, and its characters after the sign. -/
def splitSign : List Char → Bool × List Char
  | '-' :: ds => (true, ds)
  | '+' :: ds => (false, ds)
  | ds => (false, ds)

/-- The value of the decimal digits `ds`, most significant first. -/
def decimalValue (ds : List Char) : Nat :=
  ds.foldl (fun n d => 10 * n + (d.toNat - '0'.toNat)) 0

/-- The value of a numeral's digits: there is at least one, and all are
    decimal digits. -/
def digitsValue (ds : List Char) : Option Nat :=
  if ds ≠ [] ∧ ds.all Char.isDigit then some (decimalValue ds) else none

/-- `boost::lexical_cast<int>`: an optional sign, then decimal digits and
    nothing else, of a value that fits an `int`. -/
def lexicalCastInt (s : String) : Except Abort CInt :=
  match digitsValue (splitSign s.data).2 with
  | some v =>
    let x : Int := if (splitSign s.data).1 then -v else v
    if h : -2 ^ 31 ≤ x ∧ x < 2 ^ 31 then .ok ⟨x, h.1, h.2⟩ else .error badLexicalCast
  | none => .error badLexicalCast

/-- `boost::lexical_cast<uint64_t>`: an optional sign, then decimal digits and
    nothing else, of a value below `2^64`; a minus sign negates the value
    modulo `2^64`. -/
def lexicalCastUInt64 (s : String) : Except Abort UInt64 :=
  match digitsValue (splitSign s.data).2 with
  | some v =>
    if v < 2 ^ 64 then
      .ok (if (splitSign s.data).1 then 0 - UInt64.ofNat v else UInt64.ofNat v)
    else .error badLexicalCast
  | none => .error badLexicalCast

theorem lexicalCastUInt64_cases (s : String) :
    (∃ v, lexicalCastUInt64 s = .ok v) ∨ lexicalCastUInt64 s = .error badLexicalCast := by
  unfold lexicalCastUInt64
  split
  · split
    · exact .inl ⟨_, rfl⟩
    · exact .inr rfl
  · exact .inr rfl

/-! ## Integers written to an `std::ostream` -/

/-- The integer base an `std::ostream` writes in: decimal until `std::hex` is
    written to it. -/
inductive Basefield
  | dec
  | hex
  deriving DecidableEq, Repr

/-- `os << n` for a `uint64_t` `n`, in the stream's base (hexadecimal in
    lower case, without a prefix). -/
def putUInt64 : Basefield → UInt64 → String
  | .dec, n => toString n.toNat
  | .hex, n => ⟨Nat.toDigits 16 n.toNat⟩

/-! ## Writing an `int` and casting it back -/

section Digits

/-- One step of `decimalValue`. -/
private def decStep (n : Nat) (d : Char) : Nat := 10 * n + (d.toNat - '0'.toNat)

private theorem decStep_digitChar (n : Nat) {k : Nat} (hk : k < 10) :
    decStep n (Nat.digitChar k) = 10 * n + k := by
  have : ∀ k < 10, (Nat.digitChar k).toNat - '0'.toNat = k := by decide
  simp only [decStep, this k hk]

private theorem isDigit_digitChar {k : Nat} (hk : k < 10) : (Nat.digitChar k).isDigit := by
  have : ∀ k < 10, (Nat.digitChar k).isDigit := by decide
  exact this k hk

/-- The digits `Nat.toDigitsCore` puts in front of `ds` read back as `n`, and
    are decimal digits. -/
private theorem toDigitsCore_spec :
    ∀ (fuel n : Nat) (ds : List Char), n < fuel →
      (Nat.toDigitsCore 10 fuel n ds).foldl decStep 0 = ds.foldl decStep n ∧
      ∃ e, e ≠ [] ∧ (∀ d ∈ e, d.isDigit) ∧ Nat.toDigitsCore 10 fuel n ds = e ++ ds
  | 0, _, _, h => absurd h (Nat.not_lt_zero _)
  | fuel + 1, n, ds, h => by
    have hd := decStep_digitChar 0 (Nat.mod_lt n (show 10 > 0 by decide))
    have hdig := isDigit_digitChar (Nat.mod_lt n (show 10 > 0 by decide))
    simp only [Nat.toDigitsCore]
    split
    case isTrue h0 =>
      refine ⟨?_, [Nat.digitChar (n % 10)], by simp, by simpa using hdig, rfl⟩
      simp only [List.foldl_cons, hd]
      congr 1
      omega
    case isFalse h0 =>
      obtain ⟨ih, e, he, hde, heq⟩ := toDigitsCore_spec fuel (n / 10)
        (Nat.digitChar (n % 10) :: ds) (by omega)
      refine ⟨?_, e ++ [Nat.digitChar (n % 10)], by simp, ?_, by simp [heq]⟩
      · rw [ih, List.foldl_cons, decStep_digitChar _ (Nat.mod_lt n (by decide))]
        congr 1
        omega
      · intro d hd'
        rcases List.mem_append.mp hd' with hd' | hd'
        · exact hde d hd'
        · simp only [List.mem_singleton] at hd'
          exact hd' ▸ hdig

theorem digitsValue_toDigits (n : Nat) : digitsValue (Nat.toDigits 10 n) = some n := by
  obtain ⟨hv, e, he, hde, heq⟩ := toDigitsCore_spec (n + 1) n [] (by omega)
  have hval : decimalValue (Nat.toDigits 10 n) = n := hv
  rw [Nat.toDigits, heq, List.append_nil] at *
  have hall : e.all Char.isDigit := List.all_eq_true.mpr hde
  simp [digitsValue, he, hall, hval]

theorem isDigit_of_mem_toDigits {n : Nat} {c : Char} (hc : c ∈ Nat.toDigits 10 n) : c.isDigit := by
  obtain ⟨-, e, -, hde, heq⟩ := toDigitsCore_spec (n + 1) n [] (by omega)
  rw [Nat.toDigits, heq, List.append_nil] at hc
  exact hde c hc

end Digits

theorem splitSign_of_isDigit {d : Char} (ds : List Char) (hd : d.isDigit) :
    splitSign (d :: ds) = (false, d :: ds) := by
  unfold splitSign
  split
  · rename_i h; cases h; exact absurd hd (by decide)
  · rename_i h; cases h; exact absurd hd (by decide)
  · rfl

theorem splitSign_toDigits (n : Nat) :
    splitSign (Nat.toDigits 10 n) = (false, Nat.toDigits 10 n) := by
  obtain ⟨-, e, he, hde, heq⟩ := toDigitsCore_spec (n + 1) n [] (by omega)
  rw [List.append_nil] at heq
  rw [Nat.toDigits, heq]
  obtain _ | ⟨d, ds⟩ := e
  · exact absurd rfl he
  · exact splitSign_of_isDigit ds (hde d (List.mem_cons_self d ds))

theorem lexicalCastInt_toString (x : CInt) : lexicalCastInt (toString x) = .ok x := by
  obtain ⟨v, ge, lt⟩ := x
  cases v with
  | ofNat m =>
    show lexicalCastInt ⟨Nat.toDigits 10 m⟩ = _
    rw [Int.ofNat_eq_coe] at ge lt
    have h : -2147483648 ≤ (m : Int) ∧ (m : Int) < 2147483648 := ⟨by omega, by omega⟩
    simp [lexicalCastInt, splitSign_toDigits, digitsValue_toDigits, h]
  | negSucc m =>
    show lexicalCastInt ⟨'-' :: Nat.toDigits 10 (m + 1)⟩ = _
    rw [Int.negSucc_eq] at ge lt
    have h : -2147483648 ≤ -((m : Int) + 1) ∧ -((m : Int) + 1) < 2147483648 :=
      ⟨by omega, by omega⟩
    simp only [lexicalCastInt, splitSign, digitsValue_toDigits, if_true]
    exact dif_pos h

/-- An integer written by `<<` is a sign, when it is negative, then decimal
    digits. -/
theorem isDigit_of_mem_toString {x : Int} {c : Char} (hc : c ∈ (toString x).data) :
    c.isDigit ∨ (x < 0 ∧ c = '-') := by
  cases x with
  | ofNat m => exact .inl (isDigit_of_mem_toDigits hc)
  | negSucc m =>
    change c ∈ '-' :: Nat.toDigits 10 (m + 1) at hc
    rcases List.mem_cons.mp hc with rfl | hc
    · exact .inr ⟨Int.negSucc_lt_zero m, rfl⟩
    · exact .inl (isDigit_of_mem_toDigits hc)

/-- A character that is neither a digit nor `-` is not in a group `<<`
    writes. -/
theorem not_mem_toString {c : Char} (hd : c.isDigit = false) (hm : c ≠ '-') (x : CInt) :
    c ∉ (toString x).data := fun h => by
  rcases isDigit_of_mem_toString (x := x.val) h with h | ⟨-, h⟩
  · exact Bool.false_ne_true (hd.symm.trans h)
  · exact hm h

/-- A negative integer is written with its sign. -/
theorem minus_mem_toString {x : Int} (hx : x < 0) : '-' ∈ (toString x).data := by
  cases x with
  | ofNat m => exact absurd hx (Int.not_lt.mpr (Int.ofNat_nonneg m))
  | negSucc m => exact List.mem_cons_self _ _

end MediastorageProxy
