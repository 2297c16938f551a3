import Spreadsheet.Proofs.Json.Numeral
import Spreadsheet.Proofs.Json.Text

/-!
# Values in JSON read back

A value is read back from what is written for it, numbers that are not finite as null, as far as its
numbers are read back one by one. The reader takes the value from the front of whatever text and
stops behind it.
-/

namespace Spreadsheet.Json

/-! ## What a text keeps of a value -/

private theorem sizeOf_member_lt {members : List (String × Json)} {member : String × Json}
    (h : member ∈ members) : sizeOf member.2 < sizeOf (object members) := by
  have hmember := List.sizeOf_lt_of_mem h
  have hvalue : sizeOf member = 1 + sizeOf member.1 + sizeOf member.2 := rfl
  rw [object.sizeOf_spec]
  omega

/-- What is read from the text of a value: there is no word for a number that is not finite. -/
def asWritten : Json → Json
  | .null => .null
  | .boolean b => .boolean b
  | .integer n => .integer n
  | .decimal x => if x.isFinite then .decimal x else .null
  | .text s => .text s
  | .array items => .array (items.map asWritten)
  | .object members => .object (members.map fun member => (member.1, asWritten member.2))
  | .meaningless => .null
termination_by json => sizeOf json
decreasing_by
  · decreasing_tactic
  · exact sizeOf_member_lt ‹_›

/-- A double is read back from what is written for it. -/
def ReadsBack (x : Float) : Prop :=
  ofText? (write (.decimal x)) = some (.decimal x)

/-- The value is the given double. -/
def isDecimal (x : Float) : Json → Bool
  | .decimal y => decide (y = x)
  | _ => false

instance : DecidablePred ReadsBack := fun x =>
  decidable_of_iff ((ofText? (write (.decimal x))).any (isDecimal x) = true) <| by
    unfold ReadsBack
    cases ofText? (write (.decimal x)) with
    | none => simp
    | some json => cases json <;> simp [isDecimal]

/-- All numbers in a value are read back, as far as they are finite. -/
def KeepsNumbers : Json → Prop
  | .integer n => -((2 ^ 63 : Nat) : Int) ≤ n ∧ n ≤ greatestWord
  | .decimal x => x.isFinite = true → ReadsBack x
  | .array items => ∀ item ∈ items, item.KeepsNumbers
  | .object members => ∀ member ∈ members, member.2.KeepsNumbers
  | _ => True
termination_by json => sizeOf json
decreasing_by
  · decreasing_tactic
  · exact sizeOf_member_lt ‹_›

/-! ## Readers -/

/-- A reader finds something in the given characters, whatever stands behind them that ends a
numeral. Blanks may be left. -/
def Finds {α : Type} (reader : Reader α) (cs : List Char) (a : α) : Prop :=
  ∀ rest, EndsNumeral rest →
    ∃ left, reader (cs ++ rest) = some (a, left) ∧ skipBlanks left = skipBlanks rest

variable {n : Nat} {value : Reader Json} {cs left rest : List Char}

private theorem finds_null : Finds (readValue (n + 1)) nullWord .null :=
  fun rest _ => ⟨rest, rfl, rfl⟩

private theorem finds_boolean (b : Bool) :
    Finds (readValue (n + 1)) (if b then "true".toList else "false".toList) (.boolean b) := by
  cases b <;> exact fun rest _ => ⟨rest, rfl, rfl⟩

private theorem finds_text (s : String) : Finds (readValue (n + 1)) (writeText s) (.text s) := by
  intro rest _
  refine ⟨rest, ?_, rfl⟩
  have htext : writeText s ++ rest = '"' :: (s.toList.flatMap escape ++ '"' :: rest) := by
    simp [writeText]
  have hread : readValue (n + 1) ('"' :: (s.toList.flatMap escape ++ '"' :: rest)) =
      (readText (s.toList.flatMap escape ++ '"' :: rest)).bind fun result =>
        some ((result.1.map Json.text).getD .meaningless, result.2) := rfl
  rw [htext, hread, readText_append]
  rfl

private theorem isBlank_of_startsNumeral {c : Char} (h : StartsNumeral c) : isBlank c = false := by
  by_contra hblank
  rw [Bool.not_eq_false] at hblank
  simp only [isBlank, Bool.or_eq_true, beq_iff_eq] at hblank
  rcases hblank with ((rfl | rfl) | rfl) | rfl <;> exact absurd h (by decide)

/-- What starts as a numeral is read as one. -/
theorem readValue_of_startsNumeral {c : Char} (h : StartsNumeral c) (cs : List Char) :
    readValue (n + 1) (c :: cs) =
      (takeNumeral? (c :: cs)).map fun (numeral, rest) => (numeral.toJson, rest) := by
  have hskip : skipBlanks (c :: cs) = c :: cs := by
    simp [skipBlanks, isBlank_of_startsNumeral h]
  rw [readValue, hskip]
  split
  case h_7 => cases takeNumeral? (c :: cs) <;> rfl
  all_goals
    next heq =>
      cases heq
      exact absurd h (by decide)

/-- A whole number of 64 digits to the base two is found again. -/
theorem finds_integer {k : Int} (hleast : -((2 ^ 63 : Nat) : Int) ≤ k)
    (hgreatest : k ≤ greatestWord) :
    Finds (readValue (n + 1)) (writeInteger k) (.integer k) := by
  intro rest hrest
  obtain ⟨c, cs, hcons, hc⟩ := startsNumeral_writeInteger k
  obtain ⟨numeral, hnumeral, hvalue⟩ := takeNumeral?_writeInteger hleast hgreatest hrest
  refine ⟨rest, ?_, rfl⟩
  rw [hcons, List.cons_append] at hnumeral ⊢
  rw [readValue_of_startsNumeral hc, hnumeral, ← hvalue]
  rfl

/-- A finite double that is read back from its text is found again. -/
theorem finds_decimal {x : Float} (hfinite : x.isFinite = true) (h : ReadsBack x) :
    Finds (readValue (n + 1)) (writeDecimal x) (.decimal x) := by
  intro rest hrest
  obtain ⟨c, cs, hcons, hc⟩ := startsNumeral_writeDecimal hfinite
  have hchars : (write (.decimal x)).toList = c :: cs := by
    rw [write, String.toList_ofList, writeChars, hcons]
  unfold ReadsBack ofText? at h
  rw [hchars] at h
  obtain ⟨⟨json, left⟩, hread, h⟩ := Option.bind_eq_some_iff.mp h
  rw [readValue_of_startsNumeral hc] at hread
  obtain ⟨⟨numeral, left'⟩, hnumeral, hpair⟩ := Option.map_eq_some_iff.mp hread
  cases hpair
  dsimp only at h
  split_ifs at h with hblank
  refine ⟨left ++ rest, ?_, ?_⟩
  · rw [hcons, List.cons_append, readValue_of_startsNumeral hc, ← List.cons_append,
      takeNumeral?_append hrest hnumeral, ← Option.some.inj h]
    rfl
  · exact List.dropWhile_append.trans (if_pos hblank)

/-! ## Sequences -/

private theorem writeParts_singleton (part : List Char) : writeParts [part] = part :=
  List.intercalate_singleton

private theorem writeParts_cons_cons (first second : List Char) (parts : List (List Char)) :
    writeParts (first :: second :: parts) = first ++ ',' :: writeParts (second :: parts) := by
  simp [writeParts]

/-- No part is longer than all parts with the commas between them. -/
theorem length_le_writeParts {parts : List (List Char)} {part : List Char} (h : part ∈ parts) :
    part.length ≤ (writeParts parts).length := by
  induction parts with
  | nil => cases h
  | cons first parts ih =>
    cases parts with
    | nil =>
      rw [List.mem_singleton.mp h, writeParts_singleton]
    | cons second parts =>
      rw [writeParts_cons_cons, List.length_append, List.length_cons]
      rcases List.mem_cons.mp h with rfl | hmem
      · omega
      · have := ih hmem
        omega

/-- There are at most as many commas as characters. -/
theorem length_le_succ_writeParts (parts : List (List Char)) :
    parts.length ≤ (writeParts parts).length + 1 := by
  induction parts with
  | nil => exact Nat.zero_le _
  | cons first parts ih =>
    cases parts with
    | nil => exact Nat.succ_le_succ (Nat.zero_le _)
    | cons second parts =>
      simp only [writeParts_cons_cons, List.length_append, List.length_cons] at ih ⊢
      omega

/-- The text of a sequence begins as its first part does. -/
theorem exists_writeParts (part : List Char) (parts : List (List Char)) :
    ∃ behind, writeParts (part :: parts) = part ++ behind := by
  cases parts with
  | nil => exact ⟨[], (writeParts_singleton part).trans (List.append_nil part).symm⟩
  | cons second parts => exact ⟨_, writeParts_cons_cons part second parts⟩

/-- A reader of parts with commas between them and a mark behind the last. -/
structure ReadsSequence {α : Type} (part : Reader α) (close : Char)
    (sequence : Nat → Reader (List α)) : Prop where
  /-- Behind a part stands the closing mark. -/
  last {limit : Nat} {cs left rest : List Char} {a : α} (hpart : part cs = some (a, left))
    (hleft : skipBlanks left = close :: rest) : sequence (limit + 1) cs = some ([a], rest)
  /-- Behind a part stands a comma. -/
  more {limit : Nat} {cs left rest : List Char} {a : α} (hpart : part cs = some (a, left))
    (hleft : skipBlanks left = ',' :: rest) :
    sequence (limit + 1) cs = (sequence limit rest).map fun (as, rest) => (a :: as, rest)

/-- The items of an array are read as a sequence. -/
theorem readsSequence_readItems : ReadsSequence value ']' (readItems value) := by
  constructor
  · intro limit cs left rest item hpart hleft
    simp [readItems, hpart, hleft]
  · intro limit cs left rest item hpart hleft
    simp only [readItems, hpart, Option.bind_eq_bind, Option.bind_some, hleft]
    cases readItems value limit rest <;> rfl

/-- The members of an object are read as a sequence. -/
theorem readsSequence_readMembers :
    ReadsSequence (readMember value) '\x7d' (readMembers value) := by
  constructor
  · intro limit cs left rest item hpart hleft
    simp [readMembers, hpart, hleft]
  · intro limit cs left rest item hpart hleft
    simp only [readMembers, hpart, Option.bind_eq_bind, Option.bind_some, hleft]
    cases readMembers value limit rest <;> rfl

/-- Parts that are found are found in a row. -/
theorem ReadsSequence.run {α β : Type} {part : Reader α} {close : Char}
    {sequence : Nat → Reader (List α)} (h : ReadsSequence part close sequence)
    (hclose : close = ',' ∨ close = ']' ∨ close = '\x7d') (hblank : isBlank close = false)
    {text : β → List Char} {result : β → α} {limit : Nat} (rest : List Char) (b : β) (bs : List β)
    (hparts : ∀ b' ∈ b :: bs, Finds part (text b') (result b')) (hlimit : bs.length < limit) :
    sequence limit (writeParts ((b :: bs).map text) ++ close :: rest) =
      some ((b :: bs).map result, rest) := by
  induction bs generalizing b limit with
  | nil =>
    obtain ⟨limit, rfl⟩ : ∃ k, limit = k + 1 := ⟨limit - 1, by omega⟩
    obtain ⟨left, hpart, hleft⟩ := hparts b List.mem_cons_self (close :: rest)
      (endsNumeral_cons hclose rest)
    have hskip : skipBlanks (close :: rest) = close :: rest := by simp [skipBlanks, hblank]
    rw [List.map_singleton, writeParts_singleton]
    exact h.last hpart (hleft.trans hskip)
  | cons b' bs ih =>
    obtain ⟨limit, rfl⟩ : ∃ k, limit = k + 1 := ⟨limit - 1, by omega⟩
    obtain ⟨left, hpart, hleft⟩ := hparts b List.mem_cons_self
      (',' :: (writeParts ((b' :: bs).map text) ++ close :: rest)) (endsNumeral_cons (.inl rfl) _)
    have hrest := ih b' (fun c hc => hparts c (List.mem_cons_of_mem _ hc))
      (Nat.lt_of_succ_lt_succ hlimit)
    have hmore : writeParts ((b :: b' :: bs).map text) ++ close :: rest =
        text b ++ ',' :: (writeParts ((b' :: bs).map text) ++ close :: rest) := by
      simp [writeParts_cons_cons]
    rw [hmore, h.more hpart hleft, hrest]
    rfl

/-- A text has as many characters as it may have parts. -/
theorem ReadsSequence.whole {α β : Type} {part : Reader α} {close : Char}
    {sequence : Nat → Reader (List α)} (h : ReadsSequence part close sequence)
    (hclose : close = ',' ∨ close = ']' ∨ close = '\x7d') (hblank : isBlank close = false)
    {text : β → List Char} {result : β → α} (rest : List Char) (b : β) (bs : List β)
    (hparts : ∀ b' ∈ b :: bs, Finds part (text b') (result b')) {cs : List Char}
    (hcs : writeParts ((b :: bs).map text) ++ close :: rest = cs) :
    sequence cs.length cs = some ((b :: bs).map result, rest) := by
  have hlength := length_le_succ_writeParts ((b :: bs).map text)
  subst hcs
  refine h.run hclose hblank rest b bs hparts ?_
  simp only [List.length_map, List.length_cons, List.length_append] at hlength ⊢
  omega

/-! ## Arrays and objects -/

private theorem writeItems_eq_map (items : List Json) :
    writeItems items = items.map writeChars := by
  induction items with
  | nil => rfl
  | cons item items ih => rw [writeItems, ih, List.map_cons]

/-- A member as it is written. -/
def writeMember (member : String × Json) : List Char :=
  writeText member.1 ++ ':' :: writeChars member.2

private theorem writeMembers_eq_map (members : List (String × Json)) :
    writeMembers members = members.map writeMember := by
  induction members with
  | nil => rfl
  | cons member members ih => rw [writeMembers, ih, List.map_cons, writeMember]

/-- A value does not start as the end of a sequence does. -/
theorem head_writeChars (json : Json) :
    ∃ c cs, writeChars json = c :: cs ∧ isBlank c = false ∧ c ≠ ']' := by
  have hnumeral : ∀ {cs : List Char}, (∃ c tail, cs = c :: tail ∧ StartsNumeral c) →
      ∃ c tail, cs = c :: tail ∧ isBlank c = false ∧ c ≠ ']' := by
    rintro _ ⟨c, tail, rfl, hc⟩
    refine ⟨c, tail, rfl, isBlank_of_startsNumeral hc, ?_⟩
    rintro rfl
    exact absurd hc (by decide)
  cases json with
  | null | meaningless => exact ⟨'n', _, rfl, rfl, by decide⟩
  | boolean b => cases b <;> exact ⟨_, _, rfl, rfl, by decide⟩
  | integer k => exact hnumeral (startsNumeral_writeInteger k)
  | decimal x =>
    by_cases hfinite : x.isFinite = true
    · exact hnumeral (startsNumeral_writeDecimal hfinite)
    · rw [writeChars, writeDecimal, if_neg hfinite]
      exact ⟨'n', _, rfl, rfl, by decide⟩
  | text s => exact ⟨'"', _, rfl, rfl, by decide⟩
  | array items => exact ⟨'[', _, rfl, rfl, by decide⟩
  | object members => exact ⟨'\x7b', _, rfl, rfl, by decide⟩

private theorem readArray_of_head {c : Char} (hblank : isBlank c = false) (hclose : c ≠ ']')
    (cs : List Char) :
    readArray value (c :: cs) =
      (readItems value (c :: cs).length (c :: cs)).map fun (items, rest) =>
        (.array items, rest) := by
  have hskip : skipBlanks (c :: cs) = c :: cs := by simp [skipBlanks, hblank]
  rw [readArray, hskip]
  split
  · next heq => exact absurd (List.cons.inj heq).1 hclose
  · cases readItems value (c :: cs).length (c :: cs) <;> rfl

/-- An array is found again if its items are. -/
theorem finds_array {items : List Json}
    (h : ∀ item ∈ items, Finds (readValue n) item.writeChars item.asWritten) :
    Finds (readValue (n + 1)) (writeChars (.array items)) (asWritten (.array items)) := by
  intro rest _
  refine ⟨rest, ?_, rfl⟩
  have htext : writeChars (.array items) ++ rest =
      '[' :: (writeParts (items.map writeChars) ++ ']' :: rest) := by
    simp [writeChars, writeItems_eq_map]
  rw [htext, asWritten]
  change readArray (readValue n) _ = _
  cases items with
  | nil => rfl
  | cons item items =>
    obtain ⟨c, cs, hcons, hblank, hclose⟩ := head_writeChars item
    obtain ⟨behind, hbehind⟩ := exists_writeParts item.writeChars (items.map writeChars)
    have hhead : writeParts ((item :: items).map writeChars) ++ ']' :: rest =
        c :: (cs ++ behind ++ ']' :: rest) := by
      rw [List.map_cons, hbehind, hcons]
      rfl
    have hitems := readsSequence_readItems.whole (.inr (.inl rfl)) rfl rest item items h hhead
    rw [hhead, readArray_of_head hblank hclose, hitems]
    rfl

/-- A member is found again if its value is. -/
theorem finds_member {member : String × Json}
    (h : Finds value member.2.writeChars member.2.asWritten) :
    Finds (readMember value) (writeMember member) (some member.1, member.2.asWritten) := by
  intro rest hrest
  obtain ⟨left, hvalue, hleft⟩ := h rest hrest
  refine ⟨left, ?_, hleft⟩
  have htext : writeMember member ++ rest = '"' :: (member.1.toList.flatMap escape ++
      '"' :: ':' :: (member.2.writeChars ++ rest)) := by
    simp [writeMember, writeText]
  rw [htext]
  change (readText _).bind _ = _
  rw [readText_append]
  change (value _).bind _ = _
  rw [hvalue]
  rfl

/-- Members whose names have a meaning make up an object. -/
theorem objectOf_map (members : List (String × Json)) (f : Json → Json) :
    objectOf (members.map fun member => (some member.1, f member.2)) =
      .object (members.map fun member => (member.1, f member.2)) := by
  have hnames : (members.map fun member => (some member.1, f member.2)).mapM
      (fun (member : Option String × Json) => member.1.map fun name => (name, member.2)) =
        some (members.map fun member => (member.1, f member.2)) := by
    induction members with
    | nil => rfl
    | cons member members ih => simp [ih]
  unfold objectOf
  rw [hnames]

/-- An object is found again if the values of its members are. -/
theorem finds_object {members : List (String × Json)}
    (h : ∀ member ∈ members, Finds (readValue n) member.2.writeChars member.2.asWritten) :
    Finds (readValue (n + 1)) (writeChars (.object members)) (asWritten (.object members)) := by
  intro rest _
  refine ⟨rest, ?_, rfl⟩
  have htext : writeChars (.object members) ++ rest =
      '\x7b' :: (writeParts (members.map writeMember) ++ '\x7d' :: rest) := by
    simp [writeChars, writeMembers_eq_map]
  rw [htext, asWritten]
  change readObject (readValue n) _ = _
  cases members with
  | nil => rfl
  | cons member members =>
    obtain ⟨behind, hbehind⟩ := exists_writeParts (writeMember member) (members.map writeMember)
    have hhead : writeParts ((member :: members).map writeMember) ++ '\x7d' :: rest =
        '"' :: (member.1.toList.flatMap escape ++ ['"'] ++ ':' :: writeChars member.2 ++ behind ++
          '\x7d' :: rest) := by
      rw [List.map_cons, hbehind]
      rfl
    have hmembers := readsSequence_readMembers.whole (.inr (.inr rfl)) rfl rest member members
      (fun member hmember => finds_member (h member hmember)) hhead
    rw [hhead]
    change (readMembers (readValue n) _ _).bind _ = _
    rw [hmembers, ← objectOf_map]
    rfl

/-! ## Values -/

/-- A value is found in what is written for it by a reader that may go as deep as it is long. -/
theorem finds_writeChars {json : Json} (hkeeps : json.KeepsNumbers)
    (hlevels : json.writeChars.length < n) :
    Finds (readValue n) json.writeChars json.asWritten := by
  induction n generalizing json with
  | zero => exact absurd hlevels (Nat.not_lt_zero _)
  | succ n ih =>
    cases json with
    | null | meaningless =>
      rw [asWritten]
      exact finds_null
    | boolean b =>
      rw [asWritten]
      exact finds_boolean b
    | integer k =>
      rw [KeepsNumbers] at hkeeps
      rw [asWritten]
      exact finds_integer hkeeps.1 hkeeps.2
    | decimal x =>
      rw [KeepsNumbers] at hkeeps
      rw [asWritten]
      split_ifs with hfinite
      · exact finds_decimal hfinite (hkeeps hfinite)
      · rw [writeChars, writeDecimal, if_neg hfinite]
        exact finds_null
    | text s =>
      rw [asWritten]
      exact finds_text s
    | array items =>
      rw [KeepsNumbers] at hkeeps
      refine finds_array fun item hitem => ih (hkeeps item hitem) ?_
      have hpart := length_le_writeParts (List.mem_map_of_mem (f := writeChars) hitem)
      rw [writeChars, writeItems_eq_map] at hlevels
      simp only [List.length_cons, List.length_append] at hlevels
      omega
    | object members =>
      rw [KeepsNumbers] at hkeeps
      refine finds_object fun member hmember => ih (hkeeps member hmember) ?_
      have hpart := length_le_writeParts (List.mem_map_of_mem (f := writeMember) hmember)
      rw [writeChars, writeMembers_eq_map] at hlevels
      simp only [writeMember, List.length_cons, List.length_append] at hlevels hpart
      omega

/-- A value is read back from its text. -/
theorem ofText?_write {json : Json} (h : json.KeepsNumbers) :
    ofText? json.write = some json.asWritten := by
  obtain ⟨left, hread, hleft⟩ := finds_writeChars h (Nat.lt_succ_self _) [] endsNumeral_nil
  rw [List.append_nil] at hread
  have hblank : skipBlanks left = [] := hleft
  unfold ofText? write
  rw [String.toList_ofList]
  simp [hread, hblank]

end Spreadsheet.Json
