import Spreadsheet.Proofs.Date.Bounds
import Spreadsheet.Proofs.Evaluation.Steady
import Spreadsheet.Proofs.Function.Passing
import Spreadsheet.Proofs.Number.Finite
import Spreadsheet.Proofs.Stored.Value

/-!
# Functions that yield finite numbers

Most functions replace a result that is no finite number by an error, or make their numbers from
counts and dates, which are small. Eleven functions yield a number as they come upon it. Their
arguments being finite, such a number can fail to be finite only if it was read from a text, if it
is the mean of two numbers whose sum is too great, or if a logarithm makes it so.
-/

namespace Spreadsheet

/-! ## Finite values -/

namespace Value

/-- A number is finite as a value if it is one as a double. -/
@[simp] theorem isFinite_number (x : Float) : (Value.number x).isFinite = x.isFinite :=
  Bool.and_true _

/-- The blank value is finite. -/
@[simp] theorem isFinite_empty : Value.empty.isFinite = true := rfl

/-- Texts are finite, whatever is written in them. -/
@[simp] theorem isFinite_text (s : String) : (Value.text s).isFinite = true := rfl

/-- Truth values are finite. -/
@[simp] theorem isFinite_boolean (b : Bool) : (Value.boolean b).isFinite = true := rfl

/-- Errors are finite. -/
@[simp] theorem isFinite_error (e : CellError) : (Value.error e).isFinite = true := rfl

/-- Results of arithmetic are finite, since others are errors. -/
@[simp] theorem isFinite_ofResult (x : Float) : (ofResult x).isFinite = true := by
  unfold ofResult
  split
  · rename_i h
    rw [isFinite_number, h]
  · rfl

/-- An array is finite if all of its values are. -/
theorem isFinite_array_iff {rows : List (List Value)} :
    (Value.array rows).isFinite = true ↔ ∀ row ∈ rows, ∀ v ∈ row, v.isFinite = true := by
  simp only [isFinite_array, List.all_eq_true]

end Value

namespace Function

open Value

variable {ambient : Ambient} {args : List Value} {name : String}

/-- Values that are handed on stay finite. -/
theorem passedOn_isFinite : PassedOn fun v => v.isFinite = true where
  empty := rfl
  boolean _ := rfl
  unfit := rfl
  absent := rfl
  nowhere := rfl
  array _ h := isFinite_array_iff.mpr h
  cells v h row hrow w hw := by
    cases v with
    | array rows => exact isFinite_array_iff.mp h row hrow w hw
    | empty | number | text | boolean | error =>
      obtain rfl := List.mem_singleton.mp hrow
      obtain rfl := List.mem_singleton.mp hw
      exact h

/-! ## Calls that may overflow -/

/-- The functions that yield a number without looking whether it is finite, apart from those whose
numbers are small. -/
def unguarded : List String :=
  ["MIN", "MAX", "ROUND", "ROUNDUP", "ROUNDDOWN", "ABS", "SQRT", "LN", "LOG10", "MEDIAN", "MODE"]

/-- Among the arguments, or in a table among them, there is a text that starts with a number too
great for a double. -/
def HasHugeText (args : List Value) : Prop :=
  ∃ s x, Value.text s ∈ flatten args ∧ Number.leading s = some x ∧ x.isFinite = false

/-- How a call of a function may come to a number that is not finite. -/
inductive MayOverflow : String → List Value → Prop where
  /-- The number is read from a text. -/
  | text {name : String} {args : List Value} (unguarded_name : name ∈ unguarded)
    (huge : HasHugeText args) : MayOverflow name args
  /-- The number lies in the middle between two others, and their sum is too great. -/
  | midpoint {args : List Value} {x y : Float} (left : x ∈ numbers args) (right : y ∈ numbers args)
    (sum : ((x + y) / 2.0).isFinite = false) : MayOverflow "MEDIAN" args
  /-- The natural logarithm is not finite. -/
  | naturalLog {args : List Value} (log : (numberAt args 0 0.0).log.isFinite = false) :
    MayOverflow "LN" args
  /-- The decimal logarithm is not finite. -/
  | decimalLog {args : List Value} (log : (numberAt args 0 0.0).log10.isFinite = false) :
    MayOverflow "LOG10" args

/-! ## Numbers among the arguments -/

/-- The single values among finite arguments are finite. -/
theorem isFinite_of_mem_flatten (h : ∀ v ∈ args, v.isFinite = true) :
    ∀ v ∈ flatten args, v.isFinite = true := by
  intro w hw
  obtain ⟨v, hv, hw⟩ := List.mem_flatMap.mp hw
  have hfinite := h v hv
  cases v with
  | array rows =>
    obtain ⟨row, hrow, hw⟩ := List.mem_flatten.mp hw
    exact isFinite_array_iff.mp hfinite row hrow w hw
  | empty | number | text | boolean | error =>
    obtain rfl := List.mem_singleton.mp hw
    exact hfinite

/-- The number of a single value is finite, unless a text is a huge number. -/
theorem isFinite_of_number? {v : Value} {x : Float} (h : ∀ v ∈ args, v.isFinite = true)
    (htext : ¬HasHugeText args) (hv : v ∈ flatten args) (hx : v.number? = some x) :
    x.isFinite = true := by
  cases v with
  | number y =>
    obtain rfl : y = x := Option.some.inj hx
    exact (isFinite_number y).symm.trans (isFinite_of_mem_flatten h _ hv)
  | text s =>
    by_contra hinfinite
    exact htext ⟨s, x, hv, hx, Bool.eq_false_iff.mpr hinfinite⟩
  | boolean b =>
    cases hx
    cases b <;> rfl
  | empty | array | error => cases hx

/-- The numbers among finite arguments are finite, unless a text is a huge number. -/
theorem isFinite_of_mem_numbers (h : ∀ v ∈ args, v.isFinite = true)
    (htext : ¬HasHugeText args) : ∀ x ∈ numbers args, x.isFinite = true := by
  intro x hx
  obtain ⟨v, hv, hx⟩ := List.mem_filterMap.mp hx
  refine isFinite_of_number? h htext hv ?_
  cases v with
  | error => cases hx
  | empty | number | text | boolean | array =>
    unfold countedNumber? at hx
    dsimp only at hx
    split_ifs at hx
    exact hx

/-- The number at a place is finite, unless a text is a huge number. -/
theorem isFinite_numberAt (h : ∀ v ∈ args, v.isFinite = true) (htext : ¬HasHugeText args)
    (i : Nat) {default : Float} (hdefault : default.isFinite = true) :
    (numberAt args i default).isFinite = true := by
  unfold numberAt
  cases hv : args[i]? with
  | none => exact hdefault
  | some v =>
    have hmem : v ∈ args := List.mem_of_getElem? hv
    change (v.number?.getD 0.0).isFinite = true
    cases hx : v.number? with
    | none => exact Number.isFinite_zero
    | some x =>
      refine isFinite_of_number? h htext (List.mem_flatMap.mpr ⟨v, hmem, ?_⟩) hx
      cases v with
      | array => cases hx
      | empty | number | text | boolean | error => exact List.mem_singleton.mpr rfl

/-! ## Functions that look for a number -/

/-- Choosing again and again ends with one of the numbers. -/
theorem foldl_mem_cons {choose : Float → Float → Float}
    (hchoose : ∀ x y, choose x y = x ∨ choose x y = y) (xs : List Float) :
    ∀ x, xs.foldl choose x ∈ x :: xs := by
  induction xs with
  | nil => exact fun x => List.mem_singleton.mpr rfl
  | cons y xs ih =>
    intro x
    rcases List.mem_cons.mp (ih (choose x y)) with heq | hmem
    · rw [List.foldl_cons, heq]
      rcases hchoose x y with hx | hy
      · rw [hx]
        exact List.mem_cons_self
      · rw [hy]
        exact List.mem_cons_of_mem _ List.mem_cons_self
    · exact List.mem_cons_of_mem _ (List.mem_cons_of_mem _ hmem)

/-- The least and the greatest of finite numbers are finite. -/
theorem isFinite_extremum {choose : Float → Float → Float}
    (hchoose : ∀ x y, choose x y = x ∨ choose x y = y) {xs : List Float}
    (h : ∀ x ∈ xs, x.isFinite = true) : (extremum choose xs).isFinite = true := by
  cases xs with
  | nil =>
    exact Number.isFinite_zero
  | cons x xs =>
    rw [extremum, isFinite_number]
    exact h _ (foldl_mem_cons hchoose xs x)

/-- The smaller one of two numbers is one of them. -/
theorem least_eq_or (x y : Float) : Number.least x y = x ∨ Number.least x y = y := by
  unfold Number.least
  split
  · exact .inl rfl
  · exact .inr rfl

/-- The greater one of two numbers is one of them. -/
theorem greatest_eq_or (x y : Float) : Number.greatest x y = x ∨ Number.greatest x y = y := by
  unfold Number.greatest
  split
  · exact .inl rfl
  · exact .inr rfl

/-- The middle is one of the numbers, or the mean of two of them. -/
theorem middle?_eq_some {xs : List Float} {m : Float} (h : middle? xs = some m) :
    m ∈ xs ∨ ∃ x ∈ xs, ∃ y ∈ xs, m = (x + y) / 2.0 := by
  unfold middle? at h
  dsimp only at h
  split at h
  · exact .inl (List.mem_of_getElem? h)
  · split at h
    · rename_i x y hx hy
      cases h
      exact .inr ⟨x, List.mem_of_getElem? hx, y, List.mem_of_getElem? hy, rfl⟩
    · cases h

private theorem mem_ascending {xs : List Float} {x : Float} : x ∈ ascending xs ↔ x ∈ xs :=
  (List.mergeSort_perm xs _).mem_iff

/-- Of two candidates one is taken. -/
theorem moreFrequent_eq_some {best : Option Repeated} {candidate r : Repeated}
    (h : moreFrequent best candidate = some r) : best = some r ∨ candidate = r := by
  unfold moreFrequent at h
  split at h
  · exact .inr (Option.some.inj h)
  · split_ifs at h
    · exact .inr (Option.some.inj h)
    · exact .inl h

/-- The most frequent number is one of the numbers, or the best one so far. -/
theorem mostFrequent_eq_some (xs : List Float) : ∀ {before : List Float} {best : Option Repeated}
    {r : Repeated}, mostFrequent before best xs = some r → best = some r ∨ r.1 ∈ xs := by
  induction xs with
  | nil => exact fun h => .inl h
  | cons x xs ih =>
    intro before best r h
    rcases ih h with hnext | hmem
    · split_ifs at hnext
      · exact .inl hnext
      · refine (moreFrequent_eq_some hnext).imp_right ?_
        rintro rfl
        exact List.mem_cons_self
      · exact .inl hnext
    · exact .inr (List.mem_cons_of_mem _ hmem)

/-! ## Functions that make small numbers -/

/-- Counts are finite. -/
theorem isFinite_ofCount (n : Nat) : (ofCount n).isFinite = true := by
  have hlimit : countLimit < 2 ^ 64 := by decide
  rw [ofCount, isFinite_number]
  exact Number.isFinite_ofNat ((Nat.min_le_right n countLimit).trans_lt hlimit)

/-- Whole numbers of at most 64 digits to the base two are finite. -/
theorem isFinite_orOutOfRange {n? : Option Int} (h : ∀ n, n? = some n → n.natAbs < 2 ^ 64) :
    (orOutOfRange n?).isFinite = true := by
  cases n? with
  | none => rfl
  | some n =>
    rw [orOutOfRange, isFinite_number]
    exact Number.isFinite_ofInt (h n rfl)

/-- Serial numbers of dates are finite. -/
theorem isFinite_makeDate : (makeDate args).isFinite = true := by
  refine isFinite_orOutOfRange fun n h => ?_
  obtain ⟨year, -, h⟩ := Option.bind_eq_some_iff.mp h
  obtain ⟨d, hd, h⟩ := Option.bind_eq_some_iff.mp h
  obtain ⟨first, -, hd⟩ := Option.bind_eq_some_iff.mp hd
  split_ifs at h
  cases h
  exact (Date.bounded_of_ofDayNumber? hd).natAbs_serial_lt.trans (by decide)

/-- The parts of the date of an argument are bounded. -/
theorem bounded_of_dateOf? {d : Date} (h : dateOf? args = some d) : d.Bounded := by
  unfold dateOf? at h
  dsimp only at h
  split at h
  · rename_i written hwritten
    cases h
    split at hwritten
    · exact Date.bounded_of_ofText? hwritten
    · cases hwritten
  · exact Date.bounded_of_ofSerial? h

/-- The parts of dates are finite. -/
theorem isFinite_datePart {part : Date → Int}
    (hpart : ∀ d : Date, d.Bounded → (part d).natAbs < 2 ^ 64) :
    (datePart part args).isFinite = true := by
  refine isFinite_orOutOfRange fun n h => ?_
  obtain ⟨d, hd, rfl⟩ := Option.map_eq_some_iff.mp h
  exact hpart d (bounded_of_dateOf? hd)

/-- The parts of times are finite. -/
theorem isFinite_timePart {part : Nat → Nat} (hpart : ∀ seconds, part seconds ≤ seconds) :
    (timePart part args).isFinite = true := by
  refine isFinite_orOutOfRange fun n h => ?_
  obtain ⟨seconds, hseconds, rfl⟩ := Option.map_eq_some_iff.mp h
  have hday : seconds < 86400 := by
    unfold Date.secondOfDay? at hseconds
    split_ifs at hseconds
    cases hseconds
    exact Nat.mod_lt _ (by decide)
  have hle := hpart seconds
  omega

/-- Weekdays are finite. -/
theorem isFinite_weekday : (weekday args).isFinite = true := by
  refine isFinite_orOutOfRange fun n h => ?_
  split_ifs at h
  unfold weekdayUnder? Date.weekday at h
  split_ifs at h <;> cases h <;> omega

/-- The serial number of a valid day is finite. -/
theorem isFinite_today (htoday : ambient.today.isValid = true) :
    (today ambient args).isFinite = true := by
  rw [today, isFinite_number]
  have hsmall := (Date.bounded_of_isValid htoday).natAbs_serial_lt
  exact Number.isFinite_ofInt (hsmall.trans (by decide))

/-- The bounds are words, and what lies between them is drawn. -/
theorem isFinite_randomBetween : (randomBetween ambient args).isFinite = true := by
  unfold randomBetween
  dsimp only
  split
  · rfl
  · rename_i h
    simp only [Bool.or_eq_true, Bool.not_eq_true', decide_eq_true_eq, not_or,
      Bool.not_eq_false] at h
    obtain ⟨⟨hbottom, htop⟩, horder⟩ := h
    have hle := Number.toInt64_le_toInt64 hbottom htop horder
    obtain ⟨hlower, hupper⟩ := ambient.between_mem hle
    have hleast := Number.natAbs_toInt64_le (Number.ceiling (numberAt args 0 0.0))
    have hgreatest := Number.natAbs_toInt64_le (Number.floor (numberAt args 1 0.0))
    rw [isFinite_number]
    exact Number.isFinite_ofInt (by omega)

/-! ## Functions that check their numbers -/

private theorem isFinite_of_nextRate? {flows : List Float} {rate next : Float}
    (h : nextRate? flows rate = some next) : next.isFinite = true := by
  unfold nextRate? at h
  dsimp only at h
  split_ifs at h with hslope hnext
  cases h
  rw [Bool.or_eq_true, not_or] at hnext
  simpa using hnext.1

private theorem isFinite_of_seekRate {flows : List Float} {steps : Nat} :
    ∀ {rate found : Float}, seekRate flows steps rate = some found → found.isFinite = true := by
  induction steps with
  | zero => exact fun h => nomatch h
  | succ steps ih =>
    intro rate found h
    unfold seekRate at h
    split at h
    · cases h
    · rename_i next hnext
      split_ifs at h
      · cases h
        exact isFinite_of_nextRate? hnext
      · exact ih h

/-- An internal rate is finite, if one is found. -/
theorem isFinite_internalRate : (internalRate args).isFinite = true := by
  unfold internalRate
  dsimp only
  split
  · split
    · rename_i rate hrate
      rw [isFinite_number]
      exact isFinite_of_seekRate hrate
    · rfl
  · rfl

/-- Positions of texts are finite. -/
theorem isFinite_locate (needle haystack : List Char) (start : Float) :
    (locate needle haystack start).isFinite = true := by
  refine orInvalid_bind rfl _ fun skip => ?_
  split
  · rfl
  · exact orInvalid_bind rfl _ fun found => isFinite_ofCount _

/-- Positions of keys are finite. -/
theorem isFinite_findMatch : (findMatch args).isFinite = true := by
  unfold findMatch position
  split
  · dsimp only
    split
    · rfl
    · rfl
    · exact isFinite_ofCount _
  · rfl

/-! ## Functions that yield a number as it is -/

section Unguarded

/-- Rounded numbers are finite, unless a text is a huge number. -/
theorem isFinite_roundWith (op : Float → Float) (h : ∀ v ∈ args, v.isFinite = true)
    (htext : ¬HasHugeText args) : (roundWith op args).isFinite = true := by
  unfold roundWith roundPlaces
  dsimp only
  split_ifs
  · exact isFinite_ofResult _
  · rw [isFinite_number]
    exact isFinite_numberAt h htext 0 Number.isFinite_zero
  · exact isFinite_ofResult _

/-- The magnitude of a number is finite, unless a text is a huge number. -/
theorem isFinite_magnitude (h : ∀ v ∈ args, v.isFinite = true) (htext : ¬HasHugeText args) :
    (magnitude args).isFinite = true := by
  rw [magnitude, isFinite_number]
  exact Number.isFinite_abs (isFinite_numberAt h htext 0 Number.isFinite_zero)

/-- The root of a number is finite, unless a text is a huge number. -/
theorem isFinite_squareRoot (h : ∀ v ∈ args, v.isFinite = true) (htext : ¬HasHugeText args) :
    (squareRoot args).isFinite = true := by
  unfold squareRoot
  dsimp only
  split
  · rfl
  · rename_i hsign
    rw [isFinite_number]
    exact Number.isFinite_sqrt (isFinite_numberAt h htext 0 Number.isFinite_zero) hsign

/-- The median is finite, unless the sum of two numbers may overflow. -/
theorem isFinite_median (h : ∀ v ∈ args, v.isFinite = true)
    (hguard : ¬MayOverflow "MEDIAN" args) : (median args).isFinite = true := by
  have htext : ¬HasHugeText args := fun huge => hguard (.text (by decide) huge)
  unfold median
  split
  · rename_i m hm
    rw [isFinite_number]
    rcases middle?_eq_some hm with hmem | ⟨x, hx, y, hy, rfl⟩
    · exact isFinite_of_mem_numbers h htext m (mem_ascending.mp hmem)
    · by_contra hinfinite
      exact hguard (.midpoint (mem_ascending.mp hx) (mem_ascending.mp hy)
        (Bool.eq_false_iff.mpr hinfinite))
  · rfl

/-- The mode is finite, unless a text is a huge number. -/
theorem isFinite_mode (h : ∀ v ∈ args, v.isFinite = true) (htext : ¬HasHugeText args) :
    (mode args).isFinite = true := by
  unfold mode
  split
  · rename_i x n hx
    rw [isFinite_number]
    rcases mostFrequent_eq_some _ hx with hnone | hmem
    · cases hnone
    · exact isFinite_of_mem_numbers h htext x hmem
  · rfl

/-- The natural logarithm is finite, unless it may overflow. -/
theorem isFinite_naturalLog (hguard : ¬MayOverflow "LN" args) :
    (naturalLog args).isFinite = true := by
  unfold naturalLog
  dsimp only
  split
  · rfl
  · rw [isFinite_number]
    by_contra hinfinite
    exact hguard (.naturalLog (Bool.eq_false_iff.mpr hinfinite))

/-- The logarithm to the base ten is finite, unless it may overflow. -/
theorem isFinite_decimalLog (hguard : ¬MayOverflow "LOG10" args) :
    (decimalLog args).isFinite = true := by
  unfold decimalLog
  dsimp only
  split
  · rfl
  · rw [isFinite_number]
    by_contra hinfinite
    exact hguard (.decimalLog (Bool.eq_false_iff.mpr hinfinite))

end Unguarded

/-! ## The library -/

/-- The mathematical functions are finite, unless they may overflow. -/
theorem isFinite_mathematical (h : ∀ v ∈ args, v.isFinite = true) :
    ∀ f ∈ mathematical, ¬MayOverflow f.name args → (f.run ambient args).isFinite = true := by
  have htext : ∀ {name}, name ∈ unguarded → ¬MayOverflow name args → ¬HasHugeText args :=
    fun hname hguard huge => hguard (.text hname huge)
  have hminimum : ¬MayOverflow "MIN" args → (minimum args).isFinite = true := fun hguard =>
    isFinite_extremum least_eq_or (isFinite_of_mem_numbers h (htext (by decide) hguard))
  have hmaximum : ¬MayOverflow "MAX" args → (maximum args).isFinite = true := fun hguard =>
    isFinite_extremum greatest_eq_or (isFinite_of_mem_numbers h (htext (by decide) hguard))
  have hround : ¬MayOverflow "ROUND" args → (round args).isFinite = true := fun hguard =>
    isFinite_roundWith _ h (htext (by decide) hguard)
  have hroundUp : ¬MayOverflow "ROUNDUP" args → (roundUp args).isFinite = true := fun hguard =>
    isFinite_roundWith _ h (htext (by decide) hguard)
  have hroundDown : ¬MayOverflow "ROUNDDOWN" args → (roundDown args).isFinite = true :=
    fun hguard => isFinite_roundWith _ h (htext (by decide) hguard)
  have hmagnitude : ¬MayOverflow "ABS" args → (magnitude args).isFinite = true := fun hguard =>
    isFinite_magnitude h (htext (by decide) hguard)
  have hroot : ¬MayOverflow "SQRT" args → (squareRoot args).isFinite = true := fun hguard =>
    isFinite_squareRoot h (htext (by decide) hguard)
  have hratio : (circleRatio args).isFinite = true := by
    rw [circleRatio, isFinite_number]
    rfl
  simp +contextual [mathematical, steady, sum, average, hminimum, hmaximum, count, countFilled,
    countBlank, isFinite_ofCount, hround, hroundUp, hroundDown, hmagnitude, power, hroot,
    exponential, isFinite_naturalLog, logarithm, isFinite_decimalLog, remainder, hratio, random,
    Number.isFinite_unit, isFinite_randomBetween, apply_ite Value.isFinite]

/-- The statistical functions are finite, unless they may overflow. -/
theorem isFinite_statistical (h : ∀ v ∈ args, v.isFinite = true) :
    ∀ f ∈ statistical, ¬MayOverflow f.name args → (f.run ambient args).isFinite = true := by
  have hmode : ¬MayOverflow "MODE" args → (mode args).isFinite = true := fun hguard =>
    isFinite_mode h fun huge => hguard (.text (by decide) huge)
  have hspread : (deviation args).isFinite = true ∧ (variance args).isFinite = true := by
    unfold deviation variance
    cases variance? (numbers args) with
    | none => exact ⟨rfl, rfl⟩
    | some v => exact ⟨isFinite_ofResult _, isFinite_ofResult _⟩
  simp +contextual [statistical, steady, isFinite_median h, hmode, hspread]

/-- The functions on texts are finite. -/
theorem isFinite_textual : ∀ f ∈ textual, (f.run ambient args).isFinite = true := by
  have hleft : (left args).isFinite = true := orInvalid_bind rfl _ fun _ => rfl
  have hright : (right args).isFinite = true := orInvalid_bind rfl _ fun _ => rfl
  have hmiddle : (middlePart args).isFinite = true :=
    orInvalid_bind rfl _ fun _ => orInvalid_bind rfl _ fun _ => rfl
  have hsubstitute : (substitute args).isFinite = true := by
    unfold substitute
    dsimp only
    split_ifs
    · rfl
    · rfl
    · exact orInvalid_bind rfl _ fun _ => rfl
  simp [textual, steady, concatenate, hleft, hright, hmiddle, length, lowerCase, upperCase,
    properCase, trimSpaces, hsubstitute, find, search, isFinite_ofCount, isFinite_locate, ofChars]

/-- The functions on dates and times are finite. -/
theorem isFinite_temporal (htoday : ambient.today.isValid = true) :
    ∀ f ∈ temporal, (f.run ambient args).isFinite = true := by
  have hyear : (year args).isFinite = true :=
    isFinite_datePart fun d hd => by
      have := Date.inCalendar_iff.mp hd.year
      omega
  have hmonth : (month args).isFinite = true :=
    isFinite_datePart fun d hd => hd.month_le.trans_lt (by decide)
  have hday : (day args).isFinite = true :=
    isFinite_datePart fun d hd => hd.day_le.trans_lt (by decide)
  have hhour : (hour args).isFinite = true :=
    isFinite_timePart fun seconds => Nat.div_le_self _ _
  have hminute : (minute args).isFinite = true :=
    isFinite_timePart fun seconds => (Nat.div_le_self _ _).trans (Nat.mod_le _ _)
  have hsecond : (second args).isFinite = true :=
    isFinite_timePart fun seconds => Nat.mod_le _ _
  simp [temporal, steady, isFinite_makeDate, hyear, hmonth, hday, hhour, hminute, hsecond,
    isFinite_weekday, isFinite_today htoday, now]

/-- The financial functions are finite. -/
theorem isFinite_financial : ∀ f ∈ financial, (f.run ambient args).isFinite = true := by
  simp [financial, steady, payment, futureValue, presentValue, netPresentValue,
    isFinite_internalRate, apply_ite Value.isFinite]

/-- The value of a function of the library is finite if its arguments are, unless the call may
overflow. -/
theorem isFinite_run (htoday : ambient.today.isValid = true) (h : ∀ v ∈ args, v.isFinite = true) :
    ∀ f ∈ library, ¬MayOverflow f.name args → (f.run ambient args).isFinite = true := by
  intro f hf hguard
  simp only [library, List.mem_append] at hf
  obtain (((((hf | hf) | hf) | hf) | hf) | hf) | hf := hf
  · exact isFinite_mathematical h f hf hguard
  · exact isFinite_statistical h f hf hguard
  · exact isFinite_textual f hf
  · exact isFinite_temporal htoday f hf
  · exact passedOn_isFinite.logical h f hf
  · exact passedOn_isFinite.lookups h isFinite_findMatch f hf
  · exact isFinite_financial f hf

/-- The value of a call is finite if its arguments are, unless the call may overflow. -/
theorem isFinite_invoke (htoday : ambient.today.isValid = true)
    (h : ∀ v ∈ args, v.isFinite = true) (hguard : ¬MayOverflow (Text.upper name) args) :
    (invoke ambient name args).isFinite = true := by
  unfold invoke
  split
  · rfl
  · rename_i f hf
    obtain ⟨hmem, hname⟩ := name_of_named? hf
    split
    · exact isFinite_run htoday h f hmem (hname ▸ hguard)
    · rfl

end Function

end Spreadsheet
