import ScoreCrypto.Storage.KvFormat
import Mathlib.Data.Multiset.MapFold

/-!
What is loaded from a file that a descriptor was written to. A line is read back as what it was
written for unless it looks like a section header, and the file is read up to a fixed size only.
-/

namespace ScoreCrypto.Storage

open Text Ascii DeploymentDescriptor

/-! ### What the validator lets through -/

variable {value : Bytes}

theorem tight_of_noBoundary (inner : hasBoundaryWhitespace value = false) :
    Tight isWhitespace value := by
  simp only [hasBoundaryWhitespace, Bool.or_eq_false_iff] at inner
  constructor
  · intro c member
    simpa [Option.mem_def.mp member] using inner.1
  · intro c member
    simpa [Option.mem_def.mp member] using inner.2

theorem newline_notMem (single : isSingleLine value = true) :
    newline ∉ value := by
  intro member
  have kept := List.all_eq_true.mp single _ member
  simp at kept

structure SectionText (name : Bytes) : Prop where
  nonempty : name ≠ []
  tight : Tight isWhitespace name
  single : newline ∉ name

structure KeyText (key : Bytes) : Prop where
  nonempty : key ≠ []
  noComment : key.head? ≠ some hash
  noEquals : equals ∉ key
  tight : Tight isWhitespace key
  single : newline ∉ key

structure ValueText (value : Bytes) : Prop where
  tight : Tight isWhitespace value
  single : newline ∉ value

variable {name : Bytes}

theorem sectionText (valid : isValidSection name = true) : SectionText name := by
  simp only [isValidSection, Bool.and_eq_true, decide_eq_true_eq, Bool.not_eq_true'] at valid
  exact ⟨valid.1.1, tight_of_noBoundary valid.1.2, newline_notMem valid.2⟩

variable {key : Bytes}

theorem keyText (valid : isValidKvKey key = true) : KeyText key := by
  simp only [isValidKvKey, Bool.and_eq_true, decide_eq_true_eq, Bool.not_eq_true'] at valid
  exact ⟨valid.1.1.1.1, valid.1.1.1.2, valid.1.1.2, tight_of_noBoundary valid.1.2,
    newline_notMem valid.2⟩

theorem valueText (valid : isValidKvValue value = true) : ValueText value := by
  simp only [isValidKvValue, Bool.and_eq_true, Bool.not_eq_true'] at valid
  exact ⟨tight_of_noBoundary valid.1, newline_notMem valid.2⟩

variable {name key value : Bytes}

theorem isValidEntry_iff :
    isValidEntry name key value = true ↔
      isValidSection name = true ∧ isValidKvKey key = true ∧ isValidKvValue value = true := by
  simp [isValidEntry, and_assoc]

def Accepted (descriptor : DeploymentDescriptor) : Prop :=
  ∀ name content, descriptor.lookup name = some content →
    isValidSection name = true ∧
      ∀ key value, content.lookup key = some value → isValidEntry name key value = true

theorem validate_iff (order : HashOrder) (descriptor : DeploymentDescriptor) :
    validate order descriptor = true ↔ Accepted descriptor := by
  simp only [validate, List.all_eq_true, Bool.and_eq_true, Accepted]
  constructor
  · intro valid name content found
    have checked := valid _ (((order.sections descriptor).mem_iff name content).mpr found)
    refine ⟨checked.1, ?_⟩
    intro key value entry
    exact checked.2 _ (((order.entries name content).mem_iff key value).mpr entry)
  · intro accepted part member
    have checked := accepted _ _ (((order.sections descriptor).mem_iff _ _).mp member)
    refine ⟨checked.1, ?_⟩
    intro entry inside
    exact checked.2 _ _ (((order.entries _ _).mem_iff _ _).mp inside)

/-! ### Reading one line back -/

/-- A line of the entry starts and ends like a section header. -/
def HeaderLike (key value : Bytes) : Prop :=
  key.head? = some leftBracket ∧ value.getLast? = some rightBracket

instance (key value : Bytes) : Decidable (HeaderLike key value) :=
  inferInstanceAs (Decidable (_ ∧ _))

theorem headerLine_ends (name : Bytes) :
    (headerLine name).head? = some leftBracket ∧
      (headerLine name).getLast? = some rightBracket := by
  constructor
  · rfl
  · exact List.getLast?_concat

theorem trim_headerLine (name : Bytes) :
    trim isWhitespace (headerLine name) = headerLine name := by
  apply trim_tight
  constructor
  · intro c member
    rw [(headerLine_ends name).1] at member
    cases Option.some.inj member
    decide
  · intro c member
    rw [(headerLine_ends name).2] at member
    cases Option.some.inj member
    decide

theorem readTrimmed_header (valid : isValidSection name = true) (reading : Reading) :
    readTrimmed reading (headerLine name) =
      .ok { descriptor := reading.descriptor.addSection name, currentSection := name } := by
  have full : headerLine name ≠ [] := by simp [headerLine]
  have noComment : (headerLine name).head? ≠ some hash := by
    rw [(headerLine_ends name).1]
    decide
  have inner : (headerLine name).tail.dropLast = name := by simp [headerLine]
  unfold readTrimmed
  rw [if_neg (not_or.mpr ⟨full, noComment⟩), if_pos (headerLine_ends name)]
  simp [inner, valid]

theorem trim_space {text : Bytes} (tight : Tight isWhitespace text) :
    trim isWhitespace (text ++ [space]) = text := by
  have blank : ∀ c ∈ [space], isWhitespace c = true := List.forall_mem_singleton.mpr (by decide)
  simpa using trim_padded tight (by simp : ∀ c ∈ ([] : Bytes), isWhitespace c = true) blank

def afterEquals (value : Bytes) : Bytes :=
  if value = [] then [] else space :: value

theorem trim_afterEquals (tight : Tight isWhitespace value) :
    trim isWhitespace (afterEquals value) = value := by
  unfold afterEquals
  split
  case isTrue empty => simp [empty, trim]
  case isFalse =>
    have blank : ∀ c ∈ [space], isWhitespace c = true :=
      List.forall_mem_singleton.mpr (by decide)
    simpa using trim_padded tight blank (by simp : ∀ c ∈ ([] : Bytes), isWhitespace c = true)

theorem trim_entryLine (keyOk : KeyText key) (valueOk : ValueText value) :
    trim isWhitespace (entryLine key value) =
      key ++ [space, equals] ++ afterEquals value := by
  have start : ∀ (rest : Bytes), ∀ c ∈ (key ++ rest).head?, isWhitespace c = false := by
    intro rest c member
    rw [List.head?_append_of_ne_nil key keyOk.nonempty] at member
    exact keyOk.tight.1 c member
  unfold afterEquals entryLine
  split
  case isTrue empty =>
    have tight : Tight isWhitespace (key ++ [space, equals]) := by
      refine ⟨start _, ?_⟩
      intro c member
      rw [List.getLast?_append] at member
      cases Option.some.inj member
      decide
    simpa [empty] using trim_space tight
  case isFalse filled =>
    have tight : Tight isWhitespace
        (key ++ ([space, equals] ++ space :: value)) := by
      refine ⟨start _, ?_⟩
      intro c member
      rw [← List.append_assoc, List.getLast?_append_of_ne_nil _ (List.cons_ne_nil _ _),
        List.getLast?_cons_of_ne_nil filled] at member
      exact valueOk.tight.2 c member
    simpa using trim_tight tight

theorem afterEquals_getLast (value : Bytes) (before : Bytes) :
    (before ++ [space, equals] ++ afterEquals value).getLast? = some rightBracket ↔
      value.getLast? = some rightBracket := by
  unfold afterEquals
  split
  case isTrue empty =>
    have other : equals ≠ rightBracket := by decide
    simp [empty, other]
  case isFalse filled =>
    rw [List.getLast?_append_of_ne_nil _ (List.cons_ne_nil _ _),
      List.getLast?_cons_of_ne_nil filled]

theorem beforeEquals (noEquals : equals ∉ key) (rest : Bytes) :
    (key ++ [space, equals] ++ rest).takeWhile (· ≠ equals) =
        key ++ [space] ∧
      (key ++ [space, equals] ++ rest).dropWhile (· ≠ equals) =
        equals :: rest := by
  have inside : ∀ c ∈ key ++ [space], decide (c ≠ equals) = true := by
    intro c member
    rcases List.mem_append.mp member with old | blank
    · simpa using fun same : c = equals => noEquals (same ▸ old)
    · rw [List.mem_singleton.mp blank]
      decide
  have shape : key ++ [space, equals] ++ rest =
      key ++ [space] ++ equals :: rest := by simp
  rw [shape, List.takeWhile_append_of_pos inside, List.dropWhile_append_of_pos inside]
  simp

variable {reading : Reading}

theorem readTrimmed_entry
    (valid : isValidEntry reading.currentSection key value = true) (plain : ¬ HeaderLike key value)
    (fresh : reading.descriptor.hasKey reading.currentSection key = false) :
    readTrimmed reading (trim isWhitespace (entryLine key value)) =
      .ok { reading with
        descriptor := reading.descriptor.set reading.currentSection key value } := by
  rcases isValidEntry_iff.mp valid with ⟨sectionOk, keyOk, valueOk⟩
  have keyOk := keyText keyOk
  have valueOk := valueText valueOk
  rw [trim_entryLine keyOk valueOk]
  have split := beforeEquals keyOk.noEquals (afterEquals value)
  have last := afterEquals_getLast value key
  have first : (key ++ [space, equals] ++ afterEquals value).head? = key.head? := by
    rw [List.append_assoc, List.head?_append_of_ne_nil key keyOk.nonempty]
  have member : equals ∈ key ++ [space, equals] ++ afterEquals value := by simp
  have full : key ++ [space, equals] ++ afterEquals value ≠ [] := by simp
  unfold readTrimmed
  rw [if_neg (not_or.mpr ⟨full, first ▸ keyOk.noComment⟩), if_neg, if_neg (sectionText sectionOk).nonempty,
    if_neg (not_not.mpr member), split.1, split.2, trim_space keyOk.tight, List.tail_cons,
    trim_afterEquals valueOk.tight]
  · simp [readEntry, fresh, valid]
  · rw [first, last]
    exact plain

/-! ### Reading a section and a descriptor back -/

theorem readLines_line {line : Bytes} (single : newline ∉ line) (reading : Reading)
    (rest : Bytes) :
    readLines reading (lines newline (line ++ [newline] ++ rest)) =
      match readTrimmed reading (trim isWhitespace line) with
      | .error e => .error e
      | .ok reading => readLines reading (lines newline rest) := by
  rw [List.append_assoc, List.singleton_append, lines_append single]
  rfl

theorem entryLine_single (valid : isValidEntry name key value = true) :
    newline ∉ entryLine key value := by
  rcases isValidEntry_iff.mp valid with ⟨-, keyOk, valueOk⟩
  have inner : newline ∉ [space, equals, space] := by decide
  unfold entryLine
  simp only [List.mem_append, not_or]
  exact ⟨⟨(keyText keyOk).single, inner⟩, (valueText valueOk).single⟩

theorem headerLine_single (valid : isValidSection name = true) :
    newline ∉ headerLine name := by
  have ends : newline ≠ leftBracket ∧ newline ≠ rightBracket := by decide
  simp [headerLine, ends, (sectionText valid).single]

theorem fresh_insert {β : Type} {first : Sigma fun _ : Bytes => β}
    {rest : List (Sigma fun _ : Bytes => β)} {known : Finmap fun _ : Bytes => β}
    (unique : (first :: rest).NodupKeys)
    (fresh : ∀ part ∈ first :: rest, known.lookup part.1 = none) (value : β) :
    ∀ part ∈ rest, (known.insert first.1 value).lookup part.1 = none := by
  intro part member
  have different : part.1 ≠ first.1 := fun same =>
    (List.nodupKeys_cons.mp unique).1 (same ▸ List.mem_keys_of_mem member)
  rw [Finmap.lookup_insert_of_ne _ different]
  exact fresh part (List.mem_cons_of_mem _ member)

theorem readLines_entries (descriptor : DeploymentDescriptor)
    (entries : List (Sigma fun _ : Bytes => Bytes)) (content : Section) (rest : Bytes)
    (unique : entries.NodupKeys) (fresh : ∀ entry ∈ entries, content.lookup entry.1 = none)
    (valid : ∀ entry ∈ entries, isValidEntry name entry.1 entry.2 = true)
    (plain : ∀ entry ∈ entries, ¬ HeaderLike entry.1 entry.2) :
    readLines { descriptor := descriptor.insert name content, currentSection := name }
        (lines newline
          (entries.flatMap (fun entry => entryLine entry.1 entry.2 ++ [newline]) ++ rest)) =
      readLines
        { descriptor := descriptor.insert name
            (entries.foldl (fun built entry => built.insert entry.1 entry.2) content)
          currentSection := name }
        (lines newline rest) := by
  induction entries generalizing content with
  | nil => rfl
  | cons entry entries ih =>
    have ok := valid entry List.mem_cons_self
    have absent := fresh entry List.mem_cons_self
    have free : hasKey (descriptor.insert name content) name entry.1 = false := by
      simp [hasKey, DeploymentDescriptor.entry, getSection, absent]
    rw [List.flatMap_cons, List.append_assoc, readLines_line (entryLine_single ok),
      readTrimmed_entry ok (plain entry List.mem_cons_self) free]
    simp only [DeploymentDescriptor.set, getSection, Finmap.lookup_insert,
      Option.getD_some, Finmap.insert_insert]
    rw [ih _ (List.nodupKeys_cons.mp unique).2 _ (fun e h => valid e (List.mem_cons_of_mem _ h))
      (fun e h => plain e (List.mem_cons_of_mem _ h)), List.foldl_cons]
    exact fresh_insert unique fresh _

theorem readLines_section (order : HashOrder) {content : Section}
    (valid : isValidSection name = true)
    (entriesOk : ∀ key value, content.lookup key = some value →
      isValidEntry name key value = true ∧ ¬ HeaderLike key value)
    (fresh : reading.descriptor.lookup name = none) (rest : Bytes) :
    readLines reading
        (lines newline
          (headerLine name ++ [newline] ++ entryLines order name content ++ [newline] ++
            rest)) =
      readLines { descriptor := reading.descriptor.insert name content, currentSection := name }
        (lines newline rest) := by
  have found : ∀ entry ∈ (order.entries name content).entries,
      content.lookup entry.1 = some entry.2 := fun entry member =>
    ((order.entries name content).mem_iff _ _).mp member
  have added : reading.descriptor.addSection name = reading.descriptor.insert name ∅ := by
    simp [addSection, hasSection, fresh]
  have blankLine : readTrimmed
      { descriptor := reading.descriptor.insert name content, currentSection := name }
      (trim isWhitespace []) =
        .ok { descriptor := reading.descriptor.insert name content, currentSection := name } := by
    simp [readTrimmed, trim]
  have last := readLines_line (List.not_mem_nil : newline ∉ ([] : Bytes))
    { descriptor := reading.descriptor.insert name content, currentSection := name } rest
  rw [blankLine] at last
  rw [List.append_assoc, List.append_assoc, readLines_line (headerLine_single valid),
    trim_headerLine, readTrimmed_header valid, added]
  simp only
  rw [entryLines, readLines_entries _ _ _ _ (order.entries name content).nodupKeys
    (fun entry _ => Finmap.lookup_empty _)
    (fun entry member => (entriesOk _ _ (found entry member)).1)
    (fun entry member => (entriesOk _ _ (found entry member)).2), Iteration.foldl_insert]
  simpa using last

theorem readLines_sections (order : HashOrder)
    (sections : List (Sigma fun _ : Bytes => Section)) (reading : Reading)
    (unique : sections.NodupKeys)
    (fresh : ∀ part ∈ sections, reading.descriptor.lookup part.1 = none)
    (valid : ∀ part ∈ sections, isValidSection part.1 = true ∧
      ∀ key value, part.2.lookup key = some value →
        isValidEntry part.1 key value = true ∧ ¬ HeaderLike key value) :
    (readLines reading
        (lines newline (sections.flatMap fun part =>
          headerLine part.1 ++ [newline] ++ entryLines order part.1 part.2 ++
            [newline]))).map Reading.descriptor =
      .ok (sections.foldl (fun built part => built.insert part.1 part.2) reading.descriptor) := by
  induction sections generalizing reading with
  | nil => rfl
  | cons part sections ih =>
    have ok := valid part List.mem_cons_self
    rw [List.flatMap_cons,
      readLines_section order ok.1 ok.2 (fresh part List.mem_cons_self), List.foldl_cons]
    apply ih _ (List.nodupKeys_cons.mp unique).2
    · exact fresh_insert unique fresh _
    · exact fun other member => valid other (List.mem_cons_of_mem _ member)

/-- No entry of the descriptor is written to a line that looks like a section header. -/
def PlainEntries (descriptor : DeploymentDescriptor) : Prop :=
  ∀ name key value, descriptor.entry name key = some value → ¬ HeaderLike key value

variable {descriptor : DeploymentDescriptor}

theorem entry_of_lookup {content : Section} (found : descriptor.lookup name = some content)
    (inside : content.lookup key = some value) : descriptor.entry name key = some value := by
  simp [entry, getSection, found, inside]

theorem parse_serialize (order : HashOrder) (accepted : Accepted descriptor)
    (plain : PlainEntries descriptor) :
    parse (serialize order descriptor) = .ok descriptor := by
  have found : ∀ part ∈ (order.sections descriptor).entries,
      descriptor.lookup part.1 = some part.2 := fun part member =>
    ((order.sections descriptor).mem_iff _ _).mp member
  unfold parse serialize
  rw [readLines_sections order _ {} (order.sections descriptor).nodupKeys
    (fun part _ => Finmap.lookup_empty _), Iteration.foldl_insert]
  intro part member
  have checked := accepted _ _ (found part member)
  refine ⟨checked.1, ?_⟩
  intro key value inside
  exact ⟨checked.2 key value inside, plain _ _ _ (entry_of_lookup (found part member) inside)⟩

/-! ### What a load can yield -/

theorem header_of_headerLike {left right : Bytes} (tight : Tight isWhitespace (left ++ right))
    (like : HeaderLike (trim isWhitespace left) (trim isWhitespace right.tail)) :
    (left ++ right).head? = some leftBracket ∧
      (left ++ right).getLast? = some rightBracket := by
  have leftFull : left ≠ [] := by
    intro empty
    have first := like.1
    simp [empty, trim] at first
  have tailFull : right.tail ≠ [] := by
    intro empty
    have last := like.2
    simp [empty, trim] at last
  have rightFull : right ≠ [] := by
    intro empty
    simp [empty] at tailFull
  have first : (left ++ right).head? = left.head? := List.head?_append_of_ne_nil left leftFull
  have last : (left ++ right).getLast? = right.tail.getLast? := by
    rw [List.getLast?_append_of_ne_nil left rightFull, List.getLast?_tail, if_neg]
    intro short
    exact tailFull (List.length_eq_zero_iff.mp (by rw [List.length_tail, short]))
  constructor
  · rw [first]
    exact head?_of_trim (fun c member => tight.1 c (first ▸ member)) like.1
  · rw [last]
    exact getLast?_of_trim (fun c member => tight.2 c (last ▸ member)) like.2

theorem PlainEntries.empty : PlainEntries ∅ := by
  intro name key value found
  simp [entry, getSection] at found

theorem PlainEntries.addSection (plain : PlainEntries descriptor) (name : Bytes) :
    PlainEntries (descriptor.addSection name) := by
  unfold DeploymentDescriptor.addSection
  split
  · exact plain
  · intro other key value found
    apply plain other key value
    by_cases same : other = name
    · subst same
      simp [entry, getSection] at found
    · simpa [entry, getSection, same] using found

theorem entry_set (descriptor : DeploymentDescriptor) (name key value other otherKey : Bytes) :
    (descriptor.set name key value).entry other otherKey =
      if other = name ∧ otherKey = key then some value else descriptor.entry other otherKey := by
  unfold entry DeploymentDescriptor.set getSection
  by_cases same : other = name
  · subst same
    by_cases sameKey : otherKey = key
    · subst sameKey
      simp
    · simp [sameKey]
  · simp [same]

theorem PlainEntries.set (plain : PlainEntries descriptor) (name : Bytes)
    (entry : ¬ HeaderLike key value) :
    PlainEntries (descriptor.set name key value) := by
  intro other otherKey otherValue found
  rw [entry_set] at found
  split at found
  case isTrue same =>
    cases Option.some.inj found
    rw [same.2]
    exact entry
  case isFalse => exact plain other otherKey otherValue found

theorem readTrimmed_plain {reading' : Reading} {trimmed : Bytes}
    (tight : Tight isWhitespace trimmed) (plain : PlainEntries reading.descriptor)
    (read : readTrimmed reading trimmed = .ok reading') : PlainEntries reading'.descriptor := by
  unfold readTrimmed at read
  split at read
  · cases read
    exact plain
  split at read
  · simp only at read
    split at read
    · cases read
      exact plain.addSection _
    · cases read
  rename_i noHeader
  split at read
  · cases read
  split at read
  · cases read
  unfold readEntry at read
  split at read
  · cases read
  split at read
  · cases read
    apply plain.set
    intro like
    -- the line itself would have been taken for a header
    have whole := List.takeWhile_append_dropWhile (p := (· ≠ equals)) (l := trimmed)
    rw [← whole] at tight noHeader
    exact noHeader (header_of_headerLike tight like)
  · cases read

theorem readLines_plain {reading' : Reading} (text : List Bytes)
    (plain : PlainEntries reading.descriptor) (read : readLines reading text = .ok reading') :
    PlainEntries reading'.descriptor := by
  induction text generalizing reading with
  | nil =>
    cases read
    exact plain
  | cons line text ih =>
    unfold readLines at read
    split at read
    · cases read
    · rename_i next step
      exact ih (readTrimmed_plain (tight_trim line) plain step) read

variable {bytes : Bytes}

theorem parse_plain (parsed : parse bytes = .ok descriptor) : PlainEntries descriptor := by
  unfold parse at parsed
  cases read : readLines {} (lines newline bytes) with
  | error e => simp [read, Except.map] at parsed
  | ok reading =>
    rw [read] at parsed
    cases parsed
    exact readLines_plain _ PlainEntries.empty read

/-! ### The size of the file -/

def serializedSize (descriptor : DeploymentDescriptor) : Nat :=
  (descriptor.entries.map fun part =>
    part.1.length + 4 +
      (part.2.entries.map fun entry => entry.1.length + entry.2.length + 4).sum).sum

variable (order : HashOrder)

theorem length_entryLines (name : Bytes) (content : Section) :
    (entryLines order name content).length =
      (content.entries.map fun entry => entry.1.length + entry.2.length + 4).sum := by
  rw [← (order.entries name content).sum_eq, entryLines, List.length_flatMap]
  congr 1
  apply List.map_congr_left
  intro entry _
  simp [entryLine]
  omega

theorem length_serialize (descriptor : DeploymentDescriptor) :
    (serialize order descriptor).length = serializedSize descriptor := by
  unfold serializedSize
  rw [← (order.sections descriptor).sum_eq, serialize, List.length_flatMap]
  congr 1
  apply List.map_congr_left
  intro part _
  simp [headerLine, length_entryLines]
  omega

def entryCost (key value : Bytes) : Nat :=
  key.length + value.length + 4

theorem serializedSize_set (descriptor : DeploymentDescriptor) (name key value : Bytes) :
    serializedSize (descriptor.set name key value) + (descriptor.entry name key).elim 0 (entryCost key) =
      serializedSize descriptor + entryCost key value +
        (if descriptor.hasSection name then 0 else name.length + 4) := by
  let sectionCost := fun (name : Bytes) (content : Section) => name.length + 4 + total entryCost content
  have outer := total_insert sectionCost descriptor name
    ((descriptor.getSection name).insert key value)
  have inner := total_insert entryCost (descriptor.getSection name) key value
  change serializedSize (descriptor.set name key value) + _ = serializedSize descriptor + _ at outer
  change _ + (descriptor.entry name key).elim 0 (entryCost key) = _ at inner
  simp only [weightAt, sectionCost] at outer
  unfold hasSection
  cases found : descriptor.lookup name with
  | none =>
    have empty : descriptor.getSection name = ∅ := by
      simp [getSection, found]
    have nothing : total entryCost (∅ : Section) = 0 := rfl
    simp only [found, Option.elim_none, empty, nothing, Option.isSome_none, Bool.false_eq_true,
      if_false] at outer inner ⊢
    omega
  | some content =>
    have same : descriptor.getSection name = content := by
      simp [getSection, found]
    simp only [found, Option.elim_some, same, Option.isSome_some, if_true] at outer inner ⊢
    omega

theorem readFile_some (full : bytes ≠ []) (maxSize : Nat) :
    readFile (some bytes) maxSize =
      if bytes.length ≤ maxSize then .ok bytes else .error .invalidArgument := by
  have positive : bytes.length ≠ 0 := fun h => full (List.length_eq_zero_iff.mp h)
  unfold readFile
  by_cases fits : bytes.length ≤ maxSize
  · simp [positive, fits, Nat.not_lt.mpr fits]
  · simp [fits, Nat.not_le.mp fits]

/-! ### The round trip -/

/-- Whatever order the loops take, the writer accepts the descriptor and the loader reads it back
from the bytes that were written. -/
def RoundTrips (descriptor : DeploymentDescriptor) : Prop :=
  ∀ order, ∃ bytes, write order descriptor = .ok bytes ∧ load (some bytes) = .ok descriptor

theorem HashOrder.exists_any : Nonempty HashOrder :=
  ⟨{ sections := fun descriptor => Classical.choice (Iteration.exists_any descriptor)
     entries := fun _ content => Classical.choice (Iteration.exists_any content) }⟩

theorem eq_empty_of_serialize {order : HashOrder} (nothing : serialize order descriptor = []) :
    descriptor = ∅ := by
  have built := (order.sections descriptor).foldl_insert
  cases parts : (order.sections descriptor).entries with
  | nil => rw [← built, parts, List.foldl_nil]
  | cons part parts' => simp [serialize, parts, headerLine] at nothing

/-- Whatever its size, what is written reads back. -/
theorem parse_write (plain : PlainEntries descriptor)
    (written : write order descriptor = .ok bytes) :
    parse bytes = .ok descriptor := by
  unfold write at written
  split at written
  case isTrue valid =>
    cases written
    split
    case isTrue nothing =>
      rw [eq_empty_of_serialize nothing]
      rfl
    case isFalse => exact parse_serialize order ((validate_iff order descriptor).mp valid) plain
  case isFalse => cases written

theorem load_serialized (full : serialize order descriptor ≠ []) :
    load (some (serialize order descriptor)) =
      if serializedSize descriptor ≤ maxDescriptorSize then parse (serialize order descriptor)
      else .error .invalidArgument := by
  unfold load
  rw [readFile_some full, length_serialize]
  by_cases fits : serializedSize descriptor ≤ maxDescriptorSize <;> simp [fits]

theorem load_written (plain : PlainEntries descriptor)
    (written : write order descriptor = .ok bytes) :
    load (some bytes) =
      if serializedSize descriptor ≤ maxDescriptorSize then .ok descriptor
      else .error .invalidArgument := by
  have back := parse_write order plain written
  unfold write at written
  split at written
  case isFalse => cases written
  case isTrue =>
    cases written
    split
    case isTrue nothing =>
      have empty := eq_empty_of_serialize nothing
      subst empty
      rfl
    case isFalse full =>
      rw [if_neg full] at back
      rw [load_serialized order full, back]

theorem write_accepted (accepted : Accepted descriptor) :
    write order descriptor =
      .ok (if serialize order descriptor = [] then emptyContent
        else serialize order descriptor) := by
  unfold write
  rw [if_pos ((validate_iff order descriptor).mpr accepted)]

theorem load_write (accepted : Accepted descriptor)
    (fits : serializedSize descriptor ≤ maxDescriptorSize) (plain : PlainEntries descriptor) :
    ∃ bytes, write order descriptor = .ok bytes ∧ load (some bytes) = .ok descriptor := by
  have written := write_accepted order accepted
  exact ⟨_, written, by rw [load_written order plain written, if_pos fits]⟩

def singleEntry (name key value : Bytes) : DeploymentDescriptor :=
  Finmap.singleton name (Finmap.singleton key value)

theorem Accepted.empty : Accepted ∅ := by
  intro name content found
  cases found

theorem Accepted.set (accepted : Accepted descriptor) (valid : isValidEntry name key value = true) :
    Accepted (descriptor.set name key value) := by
  intro other content found
  by_cases same : other = name
  · subst same
    rw [DeploymentDescriptor.set, Finmap.lookup_insert] at found
    cases found
    refine ⟨(isValidEntry_iff.mp valid).1, fun otherKey otherValue inside => ?_⟩
    by_cases sameKey : otherKey = key
    · subst sameKey
      rw [Finmap.lookup_insert] at inside
      cases inside
      exact valid
    · rw [Finmap.lookup_insert_of_ne _ sameKey, getSection] at inside
      cases known : descriptor.lookup other with
      | none => simp [known] at inside
      | some before =>
        exact (accepted other before known).2 otherKey otherValue (by simpa [known] using inside)
  · rw [DeploymentDescriptor.set, Finmap.lookup_insert_of_ne _ same] at found
    exact accepted other content found

theorem singleEntry_accepted (valid : isValidEntry name key value = true) :
    Accepted (singleEntry name key value) :=
  Accepted.empty.set valid

theorem singleEntry_plain (plain : ¬ HeaderLike key value) :
    PlainEntries (singleEntry name key value) :=
  PlainEntries.empty.set name plain

theorem roundTrips_iff (descriptor : DeploymentDescriptor) (accepted : Accepted descriptor) :
    RoundTrips descriptor ↔
      serializedSize descriptor ≤ maxDescriptorSize ∧ PlainEntries descriptor := by
  constructor
  · intro trips
    rcases HashOrder.exists_any with ⟨order⟩
    rcases trips order with ⟨bytes, written, loaded⟩
    rw [write_accepted order accepted] at written
    cases Except.ok.inj written
    split at loaded
    case isTrue nothing =>
      rw [eq_empty_of_serialize nothing]
      exact ⟨Nat.zero_le _, PlainEntries.empty⟩
    case isFalse full =>
      rw [load_serialized order full] at loaded
      split at loaded
      case isTrue fits => exact ⟨fits, parse_plain loaded⟩
      case isFalse => cases loaded
  · intro condition order
    exact load_write order accepted condition.1 condition.2

def twoSections : DeploymentDescriptor :=
  let slot := (singleEntry (ascii "slot") (ascii "key") (ascii "value")).set (ascii "slot")
    (ascii "[kind") (ascii "x")
  (slot.set (ascii "store") (ascii "path") (ascii "[a]")).set (ascii "store") (ascii "size") []

theorem twoSections_roundTrips : RoundTrips twoSections := by
  refine (roundTrips_iff _ ?_).mpr ⟨by decide, ?_⟩
  · exact (((singleEntry_accepted (by decide)).set (by decide)).set (by decide)).set (by decide)
  · exact (((singleEntry_plain (by decide)).set _ (by decide)).set _ (by decide)).set _ (by decide)

/-- The entry `[a = b]` comes back as a section of that name. -/
theorem bracketEntry_lost :
    Accepted (singleEntry (ascii "slot") (ascii "[a") (ascii "b]")) ∧
      ¬ RoundTrips (singleEntry (ascii "slot") (ascii "[a") (ascii "b]")) := by
  have accepted : Accepted (singleEntry (ascii "slot") (ascii "[a") (ascii "b]")) :=
    singleEntry_accepted (by decide)
  refine ⟨accepted, ?_⟩
  intro trips
  rcases HashOrder.exists_any with ⟨order⟩
  rcases trips order with ⟨bytes, written, loaded⟩
  have text : serialize order (singleEntry (ascii "slot") (ascii "[a") (ascii "b]")) =
      ascii "[slot]\n[a = b]\n\n" := by
    unfold serialize entryLines singleEntry
    rw [Iteration.singleton_entries]
    simp only [List.flatMap_cons, List.flatMap_nil, List.append_nil]
    rw [Iteration.singleton_entries]
    decide
  rw [write_accepted order accepted, text] at written
  cases Except.ok.inj written
  have read : (load (some (ascii "[slot]\n[a = b]\n\n"))).map
      (fun descriptor => descriptor.hasKey (ascii "slot") (ascii "[a")) = .ok false := by
    rfl
  rw [if_neg (by decide)] at loaded
  rw [loaded] at read
  exact absurd (Except.ok.inj read) (by decide)

end ScoreCrypto.Storage
