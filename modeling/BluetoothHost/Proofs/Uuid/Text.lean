import BluetoothHost.Proofs.Text.Hex
import BluetoothHost.Uuid.Text

/-!
# The texts of UUIDs

Which texts name a UUID, and which UUID they name, is said here without regard to how they are read.
A short text is a row of four or eight digits with or without a marker, and a canonical text shows
32 digits in groups. The reader accepts these texts and no others. What is written for a UUID is the
one canonical text in lower case that names its full number.
-/

namespace BluetoothHost.Uuid

/-- What may stand in front of a short text. -/
def markers : List (List Char) := [[], ['0', 'x'], ['0', 'X']]

/-- A row of four or eight digits names the UUID with the number that it denotes. -/
inductive IsShortText : List Char → Uuid → Prop
  /-- Four digits make a short form of 16 bits. -/
  | four {row : List Char} {number : UInt16} (length : row.length = 4)
      (denoted : Hex.Denotes row number.toNat) : IsShortText row (uuid16 number)
  /-- Eight digits make one of 32 bits. -/
  | eight {row : List Char} {number : UInt32} (length : row.length = 8)
      (denoted : Hex.Denotes row number.toNat) : IsShortText row (uuid32 number)

/-- The texts that name a UUID. -/
inductive IsText : List Char → Uuid → Prop
  /-- A short text, with a marker or without. -/
  | short {marker row : List Char} {uuid : Uuid} (marked : marker ∈ markers)
      (named : IsShortText row uuid) : IsText (marker ++ row) uuid
  /-- Five groups of digits with hyphens between them. -/
  | canonical {first second third fourth fifth : List Char} {number : BitVec 128}
      (lengths : [first, second, third, fourth, fifth].map List.length = [8, 4, 4, 4, 12])
      (denoted : Hex.Denotes (first ++ second ++ third ++ fourth ++ fifth) number.toNat) :
      IsText (first ++ '-' :: second ++ '-' :: third ++ '-' :: fourth ++ '-' :: fifth)
        (uuid128 number)

/-! ### Short texts -/

/-- Short texts are read, and nothing else is; no number is too large for the form. -/
theorem ofShortText?_eq_some_iff {row : List Char} {uuid : Uuid} :
    ofShortText? row = some uuid ↔ IsShortText row uuid := by
  constructor
  · intro found
    unfold ofShortText? at found
    split at found
    · rename_i number length read
      cases found
      have denoted := Hex.ofDigits?_eq_some_iff.mp read
      have fits : number < 65536 := by simpa [length] using (Hex.denotes_iff.mp denoted).1
      exact .four length ((UInt16.toNat_ofNat_of_lt' fits).symm ▸ denoted)
    · rename_i number length read
      cases found
      have denoted := Hex.ofDigits?_eq_some_iff.mp read
      have fits : number < 4294967296 := by simpa [length] using (Hex.denotes_iff.mp denoted).1
      exact .eight length ((UInt32.toNat_ofNat_of_lt' fits).symm ▸ denoted)
    · cases found
  · intro named
    cases named with
    | four length denoted =>
      rw [ofShortText?, length, Hex.ofDigits?_eq_some_iff.mpr denoted]
      simp only [UInt16.ofNat_toNat]
    | eight length denoted =>
      rw [ofShortText?, length, Hex.ofDigits?_eq_some_iff.mpr denoted]
      simp only [UInt32.ofNat_toNat]

/-- All letters of a short text are digits. -/
theorem IsShortText.hasValue {row : List Char} {uuid : Uuid} (named : IsShortText row uuid) :
    ∀ digit ∈ row, ∃ value, Hex.HasValue digit value := by
  cases named with
  | four length denoted => exact denoted.hasValue
  | eight length denoted => exact denoted.hasValue

/-- Short texts are short. -/
theorem IsShortText.length_le {row : List Char} {uuid : Uuid} (named : IsShortText row uuid) :
    row.length ≤ 8 := by
  cases named <;> omega

/-- What is taken off is a marker. -/
theorem exists_marker (text : List Char) :
    ∃ marker ∈ markers, text = marker ++ withoutMarker text := by
  unfold withoutMarker
  split
  · exact ⟨['0', 'x'], by decide, rfl⟩
  · exact ⟨['0', 'X'], by decide, rfl⟩
  · exact ⟨[], by decide, rfl⟩

/-- A marker is taken off a short text and nothing else, for no digit is the letter of a marker. -/
theorem withoutMarker_append {marker row : List Char} {uuid : Uuid} (marked : marker ∈ markers)
    (named : IsShortText row uuid) : withoutMarker (marker ++ row) = row := by
  have plain : ∀ letter : Char, Hex.Foreign letter → letter ∉ row := by
    intro letter foreign
    cases named with
    | four _ denoted => exact denoted.notMem foreign
    | eight _ denoted => exact denoted.notMem foreign
  rcases List.mem_cons.mp marked with rfl | marked
  · rw [List.nil_append]
    unfold withoutMarker
    split
    · exact absurd (by simp) (plain 'x' (by decide))
    · exact absurd (by simp) (plain 'X' (by decide))
    · rfl
  rcases List.mem_cons.mp marked with rfl | marked
  · rfl
  · obtain rfl := List.mem_singleton.mp marked
    rfl

/-! ### Canonical texts -/

/-- Hyphens make four more letters. -/
theorem length_hyphenate {row : List Char} (length : row.length = 32) :
    (hyphenate row).length = 36 := by
  simp [hyphenate, length]

/-- They are the only other letters. -/
theorem mem_hyphenate {row : List Char} {letter : Char} (member : letter ∈ hyphenate row) :
    letter = '-' ∨ letter ∈ row := by
  have taken : ∀ start count : Nat, letter ∈ (row.drop start).take count → letter ∈ row :=
    fun _ _ inside => List.mem_of_mem_drop (List.mem_of_mem_take inside)
  simp only [hyphenate, List.append_assoc, List.cons_append, List.mem_append, List.mem_cons]
    at member
  rcases member with inside | hyphen | inside | hyphen | inside | hyphen | inside | hyphen | inside
  · exact .inr (List.mem_of_mem_take inside)
  · exact .inl hyphen
  · exact .inr (taken 8 4 inside)
  · exact .inl hyphen
  · exact .inr (taken 12 4 inside)
  · exact .inl hyphen
  · exact .inr (taken 16 4 inside)
  · exact .inl hyphen
  · exact .inr (List.mem_of_mem_drop inside)

/-- The groups one after another are the whole row. -/
theorem groups_append (row : List Char) :
    row.take 8 ++ (row.drop 8).take 4 ++ (row.drop 12).take 4 ++ (row.drop 16).take 4 ++
      row.drop 20 = row := by
  have joined : ∀ start count : Nat, (row.drop start).take count ++ row.drop (start + count) =
      row.drop start := by
    intro start count
    rw [← List.drop_drop, List.take_append_drop]
  rw [List.append_assoc, joined 16 4, List.append_assoc, joined 12 4, List.append_assoc,
    joined 8 4, List.take_append_drop]

/-- Without the hyphens the row is back. -/
theorem filter_hyphenate {row : List Char} (plain : '-' ∉ row) :
    (hyphenate row).filter (· ≠ '-') = row := by
  have kept : ∀ part : List Char, part ⊆ row → part.filter (· ≠ '-') = part := by
    intro part inside
    refine List.filter_eq_self.mpr fun letter member => ?_
    rw [decide_eq_true_eq]
    rintro rfl
    exact plain (inside member)
  have taken : ∀ start count : Nat, (row.drop start).take count ⊆ row :=
    fun start count => List.Subset.trans (List.take_subset count _) (List.drop_subset start row)
  have hyphen : decide ('-' ≠ '-') = false := by decide
  simp only [hyphenate, List.filter_append, List.filter_cons, hyphen, Bool.false_eq_true,
    if_false]
  rw [kept _ (List.take_subset 8 row), kept _ (taken 8 4), kept _ (taken 12 4), kept _ (taken 16 4),
    kept _ (List.drop_subset 20 row)]
  exact groups_append row

/-- The case of a letter does not depend on the hyphens around it. -/
theorem map_toLower_hyphenate (row : List Char) :
    (hyphenate row).map Char.toLower = hyphenate (row.map Char.toLower) := by
  have hyphen : Char.toLower '-' = '-' := by decide
  simp only [hyphenate, List.map_append, List.map_cons, List.map_take, List.map_drop, hyphen]

/-- A row of 32 digits makes a canonical text. -/
theorem isText_hyphenate {row : List Char} {number : BitVec 128} (length : row.length = 32)
    (denoted : Hex.Denotes row number.toNat) : IsText (hyphenate row) (uuid128 number) := by
  refine .canonical ?_ ?_
  · simp [length]
  · rw [groups_append]
    exact denoted

/-- Every canonical text is made so. -/
theorem exists_row {first second third fourth fifth : List Char}
    (lengths : [first, second, third, fourth, fifth].map List.length = [8, 4, 4, 4, 12]) :
    (first ++ second ++ third ++ fourth ++ fifth).length = 32 ∧
      first ++ '-' :: second ++ '-' :: third ++ '-' :: fourth ++ '-' :: fifth =
        hyphenate (first ++ second ++ third ++ fourth ++ fifth) := by
  simp only [List.map_cons, List.map_nil, List.cons.injEq, and_true] at lengths
  obtain ⟨one, two, three, four, five⟩ := lengths
  refine ⟨by simp [one, two, three, four, five], ?_⟩
  simp [hyphenate, List.drop_append, List.drop_of_length_le, one, two, three, four]

/-- No digit is a hyphen. -/
theorem hyphen_notMem {row : List Char} {number : Nat} (denoted : Hex.Denotes row number) :
    '-' ∉ row :=
  denoted.notMem (by decide)

/-- Canonical texts are read, each as the full number that it shows. -/
theorem ofCanonicalText?_eq_some_iff {text : List Char} {uuid : Uuid} :
    ofCanonicalText? text = some uuid ↔ ∃ row, ∃ number : BitVec 128, row.length = 32 ∧
      Hex.Denotes row number.toNat ∧ text = hyphenate row ∧ uuid = uuid128 number := by
  unfold ofCanonicalText?
  dsimp only
  constructor
  · intro found
    split at found
    · rename_i shape
      obtain ⟨length, same⟩ := shape
      obtain ⟨number, read, rfl⟩ := Option.map_eq_some_iff.mp found
      have denoted := Hex.ofDigits?_eq_some_iff.mp read
      have fits : number < 2 ^ 128 := by
        have bound := (Hex.denotes_iff.mp denoted).1
        rw [length] at bound
        exact bound
      refine ⟨_, BitVec.ofNat 128 number, length, ?_, same.symm, rfl⟩
      rw [BitVec.toNat_ofNat, Nat.mod_eq_of_lt fits]
      exact denoted
    · cases found
  · rintro ⟨row, number, length, denoted, rfl, rfl⟩
    have plain := filter_hyphenate (hyphen_notMem denoted)
    rw [plain, if_pos ⟨length, rfl⟩, Hex.ofDigits?_eq_some_iff.mpr denoted, Option.map_some,
      BitVec.ofNat_toNat, BitVec.setWidth_eq]

/-! ### All texts -/

/-- The texts that name a UUID are read as that UUID, and others are not. -/
theorem parse_eq_ok_iff {text : String} {uuid : Uuid} :
    parse text = .ok uuid ↔ IsText text.toList uuid := by
  constructor
  · intro read
    unfold parse at read
    split at read
    · rename_i named short
      cases read
      obtain ⟨marker, marked, spelled⟩ := exists_marker text.toList
      rw [spelled]
      exact .short marked (ofShortText?_eq_some_iff.mp short)
    split at read
    · rename_i named canonical
      cases read
      obtain ⟨row, number, length, denoted, spelled, rfl⟩ :=
        ofCanonicalText?_eq_some_iff.mp canonical
      rw [spelled]
      exact isText_hyphenate length denoted
    · cases read
  · intro named
    unfold parse
    generalize text.toList = letters at named
    cases named with
    | short marked named =>
      rw [withoutMarker_append marked named, ofShortText?_eq_some_iff.mpr named]
    | @canonical first second third fourth fifth number lengths denoted =>
      obtain ⟨length, spelled⟩ := exists_row lengths
      rw [spelled]
      generalize first ++ second ++ third ++ fourth ++ fifth = row at length denoted ⊢
      have canonical : ofCanonicalText? (hyphenate row) = some (uuid128 number) :=
        ofCanonicalText?_eq_some_iff.mpr ⟨row, number, length, denoted, rfl, rfl⟩
      -- A canonical text is too long for a short one, whatever stands in front of it.
      have long : ofShortText? (withoutMarker (hyphenate row)) = none := by
        refine Option.eq_none_iff_forall_ne_some.mpr fun other short => ?_
        obtain ⟨marker, marked, parted⟩ := exists_marker (hyphenate row)
        have limit : ∀ marker ∈ markers, marker.length ≤ 2 := by decide
        have few := (ofShortText?_eq_some_iff.mp short).length_le
        have lengths := congrArg List.length parted
        rw [length_hyphenate length, List.length_append] at lengths
        have front := limit marker marked
        omega
      rw [long, canonical]

/-- There is one cause for which a text is refused. -/
theorem parse_cases (text : String) :
    (∃ uuid, parse text = .ok uuid) ∨ parse text = .error .invalidArguments := by
  unfold parse
  split
  · exact .inl ⟨_, rfl⟩
  split
  · exact .inl ⟨_, rfl⟩
  · exact .inr rfl

/-- The texts that name no UUID are refused. -/
theorem parse_eq_error_iff {text : String} {cause : Error} :
    parse text = .error cause ↔
      cause = .invalidArguments ∧ ∀ uuid, ¬IsText text.toList uuid :=
  Error.refused_iff (fun _ => parse_eq_ok_iff) (parse_cases text)

/-- The texts of UUIDs have letters of the first 128 only. -/
theorem IsText.toNat_lt {text : List Char} {uuid : Uuid} (named : IsText text uuid) :
    ∀ letter ∈ text, letter.toNat < 128 := by
  intro letter member
  cases named with
  | short marked named =>
    have plain : markers.flatten.all (fun letter => letter.toNat < 128) = true := by decide
    rcases List.mem_append.mp member with front | digit
    · have inside : letter ∈ markers.flatten := List.mem_flatten_of_mem marked front
      exact of_decide_eq_true (List.all_eq_true.mp plain letter inside)
    · obtain ⟨value, valued⟩ := named.hasValue letter digit
      exact valued.toNat_lt
  | canonical lengths denoted =>
    rw [(exists_row lengths).2] at member
    rcases mem_hyphenate member with rfl | digit
    · decide
    · obtain ⟨value, valued⟩ := denoted.hasValue letter digit
      exact valued.toNat_lt

/-- A full number is denoted by its 32 digits. -/
theorem denotes_number (number : BitVec 128) :
    Hex.Denotes (Hex.digits 32 number.toNat) number.toNat :=
  Hex.denotes_digits number.isLt

/-- What is written for a UUID has 36 letters, which are digits in lower case and hyphens. -/
theorem canonicalText_letters (uuid : Uuid) :
    uuid.canonicalText.length = 36 ∧
      ∀ letter ∈ uuid.canonicalText.toList, letter ∈ "0123456789abcdef-".toList := by
  rw [← String.length_toList, canonicalText, String.toList_ofList]
  refine ⟨length_hyphenate (Hex.length_digits _ _), fun letter member => ?_⟩
  rcases mem_hyphenate member with rfl | digit
  · decide
  · have lower : ∀ value < 16, Nat.digitChar value ∈ "0123456789abcdef-".toList := by decide
    obtain ⟨value, small, rfl⟩ := Hex.exists_of_mem_digits digit
    exact lower value small

/-- It is read as the full number. -/
theorem parse_canonicalText (uuid : Uuid) :
    parse uuid.canonicalText = .ok (uuid128 uuid.expand) := by
  rw [parse_eq_ok_iff, canonicalText, String.toList_ofList]
  exact isText_hyphenate (Hex.length_digits _ _) (denotes_number uuid.expand)

/-- A text of 36 letters that names a UUID is, in lower case, what is written for it. -/
theorem canonicalText_eq_toLower {text : String} {uuid : Uuid} (named : IsText text.toList uuid)
    (length : text.length = 36) : uuid.canonicalText = text.toLower := by
  apply String.toList_injective
  show uuid.canonicalText.toList = (text.map Char.toLower).toList
  rw [String.toList_map, canonicalText, String.toList_ofList]
  rw [← String.length_toList] at length
  generalize text.toList = letters at named length
  cases named with
  | short marked named =>
    have limit : ∀ marker ∈ markers, marker.length ≤ 2 := by decide
    have front := limit _ marked
    have few := named.length_le
    rw [List.length_append] at length
    omega
  | canonical lengths denoted =>
    obtain ⟨digits, spelled⟩ := exists_row lengths
    have written := (Hex.denotes_iff.mp denoted).2
    rw [digits] at written
    rw [spelled, map_toLower_hyphenate, written, expand]

/-- Exactly the texts described above are read, each as the UUID that it names, and every other text
is refused as a malformed argument, among them every text with a letter beyond the first 128. What
is written for a UUID has 36 letters, all of them digits in lower case or hyphens, and is read as
the same UUID in its full form. Every text of that length that is read is what is written for its
UUID, but for the case of its letters. -/
theorem parse_texts :
    (∀ text uuid, parse text = .ok uuid ↔ IsText text.toList uuid) ∧
    (∀ text cause, parse text = .error cause ↔
      cause = .invalidArguments ∧ ∀ uuid, ¬IsText text.toList uuid) ∧
    (∀ text : String, (∃ letter ∈ text.toList, 128 ≤ letter.toNat) →
      parse text = .error .invalidArguments) ∧
    (∀ uuid : Uuid, uuid.canonicalText.length = 36 ∧
      (∀ letter ∈ uuid.canonicalText.toList, letter ∈ "0123456789abcdef-".toList) ∧
      parse uuid.canonicalText = .ok (uuid128 uuid.expand) ∧ uuid128 uuid.expand ≈ uuid) ∧
    ∀ text uuid, parse text = .ok uuid → text.length = 36 →
      uuid.canonicalText = text.toLower := by
  refine ⟨fun _ _ => parse_eq_ok_iff, fun _ _ => parse_eq_error_iff, ?_, ?_, ?_⟩
  · rintro text ⟨letter, member, high⟩
    refine parse_eq_error_iff.mpr ⟨rfl, fun uuid named => ?_⟩
    have low := named.toNat_lt letter member
    omega
  · intro uuid
    obtain ⟨length, letters⟩ := uuid.canonicalText_letters
    have full : uuid128 uuid.expand ≈ uuid := equiv_iff.mpr rfl
    exact ⟨length, letters, parse_canonicalText uuid, full⟩
  · intro text uuid read length
    exact canonicalText_eq_toLower (parse_eq_ok_iff.mp read) length

/-- A text in both cases is read, and what is written for its UUID is in lower case. A letter that
only looks like a digit makes a text unreadable. -/
theorem parse_texts_of_mixed_case :
    let text := "0000110B-0000-1000-8000-00805F9b34FB"
    parse text = .ok (uuid128 0x0000110B_0000_1000_8000_00805F9B34FB#128) ∧
      (uuid128 0x0000110B_0000_1000_8000_00805F9B34FB#128).canonicalText =
        "0000110b-0000-1000-8000-00805f9b34fb" ∧
      parse "18٠f" = .error .invalidArguments := by
  intro text
  obtain ⟨-, -, foreign, -, lower⟩ := parse_texts
  have read : parse text = .ok (uuid128 0x0000110B_0000_1000_8000_00805F9B34FB#128) := by
    decide +kernel
  have folded : text.toLower = "0000110b-0000-1000-8000-00805f9b34fb" := by decide +kernel
  refine ⟨read, ?_, foreign "18٠f" ⟨'٠', by decide +kernel, by decide⟩⟩
  rw [lower text _ read (by decide +kernel), folded]

end BluetoothHost.Uuid
