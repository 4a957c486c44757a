import BluetoothHost.Address
import BluetoothHost.Proofs.Text.Hex
import BluetoothHost.Proofs.Text.Joined

/-!
# The texts of addresses

Which texts name an address is said here without regard to how they are read: six pairs of digits in
the order of the octets, with one colon between neighbours. The reader looks at the size of a text,
at its letters and at each part between two colons, and these checks leave exactly the texts
described. Every place is then written to, and no part is written that has no place. What is read is
written back in upper case, and different addresses have different path segments.
-/

namespace BluetoothHost.Address

/-- Two digits of either case, the higher in front, name an octet. -/
def IsPair (pair : List Char) (octet : UInt8) : Prop :=
  pair.length = 2 ∧ Hex.Denotes pair octet.toNat

/-- The texts that name an address: a pair for each of its octets in their order, and one colon
between neighbours. -/
def IsText (text : List Char) (address : Address) : Prop :=
  ∃ pairs, List.Forall₂ IsPair pairs address.octets.toList ∧ text = [':'].intercalate pairs

/-! ### Letters -/

/-- A digit may stand in a text. -/
theorem isLetter_of_hasValue {digit : Char} {value : Nat} (valued : Hex.HasValue digit value) :
    isLetter digit = true := by
  rw [isLetter, Hex.digitValue?_eq_some_iff.mpr valued]
  rfl

/-- What may stand in a text is among the first 128 letters. -/
theorem toNat_lt_of_isLetter {letter : Char} (allowed : isLetter letter = true) :
    letter.toNat < 128 := by
  rw [isLetter, Bool.or_eq_true, Option.isSome_iff_exists, beq_iff_eq] at allowed
  rcases allowed with ⟨value, found⟩ | rfl
  · exact (Hex.digitValue?_eq_some_iff.mp found).toNat_lt
  · decide

/-- Each letter that may stand in a text has one byte. -/
theorem utf8ByteSize_of_isLetter {text : String}
    (allowed : ∀ letter ∈ text.toList, isLetter letter = true) :
    text.utf8ByteSize = text.toList.length :=
  Joined.utf8ByteSize_eq_length fun letter member => toNat_lt_of_isLetter (allowed letter member)

/-- What stands between the colons of a text are letters of it. -/
theorem isLetter_of_mem_part {text : List Char}
    (allowed : ∀ letter ∈ text, isLetter letter = true) :
    ∀ part ∈ text.splitOn ':', ∀ letter ∈ part, isLetter letter = true := by
  intro part listed letter inside
  have shown := Joined.subset_intercalate ':' listed inside
  rw [List.intercalate_splitOn] at shown
  exact allowed letter shown

/-! ### Single parts -/

/-- A part of two bytes that is read as this octet. -/
def IsPart (part : List Char) (octet : UInt8) : Prop :=
  (String.ofList part).utf8ByteSize = 2 ∧ octet? part = some octet

/-- What stands behind a plus sign is read, if it is some row of digits for an octet. -/
theorem octet?_eq_some_iff {part : List Char} {octet : UInt8} :
    octet? part = some octet ↔
      withoutSign part ≠ [] ∧ Hex.Denotes (withoutSign part) octet.toNat := by
  unfold octet?
  split
  · rename_i none_left
    rw [none_left]
    exact ⟨nofun, fun ⟨written, _⟩ => absurd rfl written⟩
  · rename_i digit digits spelled
    rw [spelled, ← Hex.ofDigits?_eq_some_iff]
    cases Hex.ofDigits? (digit :: digits) with
    | none => exact ⟨nofun, nofun⟩
    | some number =>
      dsimp only
      rw [Option.some_inj]
      constructor
      · intro found
        split at found
        · rename_i small
          cases found
          exact ⟨List.cons_ne_nil digit digits, (UInt8.toNat_ofNat_of_lt' small).symm⟩
        · cases found
      · rintro ⟨-, rfl⟩
        rw [if_pos octet.toNat_lt, UInt8.ofNat_toNat]

/-- Nothing is taken off a row without a plus sign. -/
theorem withoutSign_eq_self {part : List Char} (unsigned : '+' ∉ part) :
    withoutSign part = part := by
  unfold withoutSign
  split
  · exact absurd List.mem_cons_self unsigned
  · rfl

/-- Of the letters that a text may have, pairs are the parts of two bytes that are read: there is no
sign among them, and each has one byte. -/
theorem isPart_iff_isPair {part : List Char} {octet : UInt8}
    (allowed : ∀ letter ∈ part, isLetter letter = true) :
    IsPart part octet ↔ IsPair part octet := by
  have unsigned : withoutSign part = part := by
    refine withoutSign_eq_self fun member => ?_
    exact absurd (allowed '+' member) (by decide)
  have size : (String.ofList part).utf8ByteSize = part.length := by
    rw [← String.toList_ofList (l := part)] at allowed
    rw [utf8ByteSize_of_isLetter allowed, String.toList_ofList]
  rw [IsPart, octet?_eq_some_iff, unsigned, size]
  constructor
  · rintro ⟨two, -, denoted⟩
    exact ⟨two, denoted⟩
  · rintro ⟨two, denoted⟩
    exact ⟨two, List.ne_nil_of_length_eq_add_one two, denoted⟩

/-- The same holds part by part. -/
theorem forall₂_isPart_iff {parts : List (List Char)} {row : List UInt8}
    (allowed : ∀ part ∈ parts, ∀ letter ∈ part, isLetter letter = true) :
    List.Forall₂ IsPart parts row ↔ List.Forall₂ IsPair parts row := by
  induction parts generalizing row with
  | nil => rw [List.forall₂_nil_left_iff, List.forall₂_nil_left_iff]
  | cons part parts ih =>
    obtain ⟨here, later⟩ := List.forall_mem_cons.mp allowed
    simp only [List.forall₂_cons_left_iff, isPart_iff_isPair here, ih later]

/-! ### Places -/

/-- A part is written if it has a place, and the others behind it. -/
theorem fill_cons_eq_some_iff {octets filled : Vector UInt8 6} {place : Nat} {part : List Char}
    {parts : List (List Char)} :
    fill octets place (part :: parts) = some filled ↔
      ∃ (within : place < 6) (octet : UInt8), IsPart part octet ∧
        fill (octets.set place octet within) (place + 1) parts = some filled := by
  rw [fill]
  constructor
  · intro written
    split at written
    · rename_i fits
      cases read : octet? part with
      | none =>
        rw [read] at written
        cases written
      | some octet =>
        rw [read] at written
        exact ⟨fits.1, octet, ⟨fits.2, read⟩, written⟩
    · cases written
  · rintro ⟨within, octet, ⟨size, read⟩, written⟩
    rw [dif_pos ⟨within, size⟩, read]
    exact written

/-- An octet written to its place stands between those in front and those behind. -/
theorem toList_set_parted {octets : Vector UInt8 6} {place : Nat} (within : place < 6)
    (octet : UInt8) (row : List UInt8) :
    (octets.set place octet).toList.take (place + 1) ++ row ++
        (octets.set place octet).toList.drop (place + 1 + row.length) =
      octets.toList.take place ++ octet :: row ++
        octets.toList.drop (place + (octet :: row).length) := by
  have room : place < octets.toList.length := by
    rw [Vector.length_toList]
    exact within
  have front : (octets.toList.set place octet).take (place + 1) =
      octets.toList.take place ++ [octet] := by
    rw [List.set_eq_take_append_cons_drop, if_pos room, List.take_append,
      List.length_take_of_le (Nat.le_of_lt room)]
    simp
  have behind : (octets.toList.set place octet).drop (place + 1 + row.length) =
      octets.toList.drop (place + 1 + row.length) :=
    List.drop_set_of_lt (by omega)
  have counted : place + (octet :: row).length = place + 1 + row.length := by
    rw [List.length_cons]
    omega
  rw [Vector.toList_set, front, behind, counted, List.append_assoc (octets.toList.take place),
    List.singleton_append]

/-- Parts are written if there is a place for each, and what stands in front of them and behind is
left. -/
theorem fill_eq_some_iff {octets filled : Vector UInt8 6} {place : Nat} {parts : List (List Char)}
    (within : place ≤ 6) :
    fill octets place parts = some filled ↔
      ∃ row, List.Forall₂ IsPart parts row ∧ place + row.length ≤ 6 ∧
        filled.toList = octets.toList.take place ++ row ++
          octets.toList.drop (place + row.length) := by
  -- A write changes the octets and moves on, so both are arbitrary in the induction on the parts.
  induction parts generalizing octets place with
  | nil =>
    simp only [fill, Option.some_inj, List.forall₂_nil_left_iff, exists_eq_left, List.length_nil,
      Nat.add_zero, List.append_nil, List.take_append_drop, Vector.toList_inj]
    exact ⟨fun same => ⟨within, same.symm⟩, fun same => same.2.symm⟩
  | cons part parts ih =>
    rw [fill_cons_eq_some_iff]
    constructor
    · rintro ⟨here, octet, read, written⟩
      obtain ⟨row, others, room, shape⟩ := (ih here).mp written
      refine ⟨octet :: row, .cons read others, ?_, ?_⟩
      · rw [List.length_cons]
        omega
      · rw [shape, toList_set_parted here octet row]
    · rintro ⟨row, valued, room, shape⟩
      obtain ⟨octet, others, read, further, rfl⟩ := List.forall₂_cons_left_iff.mp valued
      have here : place < 6 := by
        rw [List.length_cons] at room
        omega
      refine ⟨here, octet, read, (ih here).mpr ⟨others, further, ?_, ?_⟩⟩
      · rw [List.length_cons] at room
        omega
      · rw [shape, toList_set_parted here octet others]

/-- Six parts fill all places, whatever stood there. -/
theorem fill_eq_some_iff_of_six {octets filled : Vector UInt8 6} {parts : List (List Char)}
    (six : parts.length = 6) :
    fill octets 0 parts = some filled ↔ List.Forall₂ IsPart parts filled.toList := by
  rw [fill_eq_some_iff (Nat.zero_le 6)]
  constructor
  · rintro ⟨row, valued, -, shape⟩
    have size : row.length = 6 := valued.length_eq.symm.trans six
    have whole : filled.toList = row := by
      rw [shape, size]
      simp
    rw [whole]
    exact valued
  · intro valued
    refine ⟨filled.toList, valued, ?_, ?_⟩
    · rw [Vector.length_toList]
    · simp

/-- A part without a place is never written. -/
theorem fill_eq_none {octets : Vector UInt8 6} {parts : List (List Char)}
    (many : 6 < parts.length) :
    fill octets 0 parts = none := by
  refine Option.eq_none_iff_forall_ne_some.mpr fun filled written => ?_
  obtain ⟨row, valued, room, -⟩ := (fill_eq_some_iff (Nat.zero_le 6)).mp written
  have size := valued.length_eq
  omega

/-! ### Whole texts -/

section Pairs

variable {address : Address} {pairs : List (List Char)}

/-- Every part of a text is some pair. -/
theorem exists_isPair (named : List.Forall₂ IsPair pairs address.octets.toList) :
    ∀ pair ∈ pairs, ∃ octet, IsPair pair octet := by
  have both : List.Forall₂
      (fun pair octet => (∃ octet, IsPair pair octet) ∧ IsPair pair octet) pairs
      address.octets.toList := named.imp fun _ octet single => ⟨⟨octet, single⟩, single⟩
  exact ((List.forall₂_and_left _ _).mp both).1

/-- There are six of them. -/
theorem length_pairs (named : List.Forall₂ IsPair pairs address.octets.toList) :
    pairs.length = 6 := by
  rw [named.length_eq, Vector.length_toList]

/-- With a letter between them that no digit is, they are what stands between such letters. -/
theorem splitOn_pairs {separator : Char} (foreign : Hex.Foreign separator)
    (named : List.Forall₂ IsPair pairs address.octets.toList) :
    ([separator].intercalate pairs).splitOn separator = pairs := by
  refine List.splitOn_intercalate separator (fun pair listed => ?_) ?_
  · obtain ⟨octet, single⟩ := exists_isPair named pair listed
    exact single.2.notMem foreign
  · exact List.ne_nil_of_length_eq_add_one (length_pairs named)

/-- They and their colons have seventeen letters. -/
theorem length_text (named : List.Forall₂ IsPair pairs address.octets.toList) :
    ([':'].intercalate pairs).length = textSize := by
  have six := length_pairs named
  have two : ∀ pair ∈ pairs, pair.length = 2 := by
    intro pair listed
    obtain ⟨octet, single⟩ := exists_isPair named pair listed
    exact single.1
  have counted := Joined.length_intercalate ':' (List.ne_nil_of_length_eq_add_one six) two
  rw [textSize]
  omega

/-- Every letter is a digit or a colon. -/
theorem isLetter_of_mem_text (named : List.Forall₂ IsPair pairs address.octets.toList) :
    ∀ letter ∈ [':'].intercalate pairs, isLetter letter = true := by
  intro letter member
  rcases Joined.mem_intercalate member with rfl | ⟨pair, listed, inside⟩
  · decide
  · obtain ⟨octet, single⟩ := exists_isPair named pair listed
    obtain ⟨value, valued⟩ := single.2.hasValue letter inside
    exact isLetter_of_hasValue valued

end Pairs

/-- If the size of a text and all its letters are right, and each part is an octet, there are six
parts: five colons and six pairs have the size, and no other number of them does. -/
theorem length_parts {text : String} {row : List UInt8} (size : text.utf8ByteSize = textSize)
    (allowed : ∀ letter ∈ text.toList, isLetter letter = true)
    (named : List.Forall₂ IsPair (text.toList.splitOn ':') row) :
    (text.toList.splitOn ':').length = 6 := by
  have both : List.Forall₂ (fun part octet => part.length = 2 ∧ IsPair part octet)
      (text.toList.splitOn ':') row := named.imp fun _ _ single => ⟨single.1, single⟩
  have counted := Joined.length_intercalate ':' (List.splitOn_ne_nil ':' text.toList)
    ((List.forall₂_and_left _ _).mp both).1
  rw [List.intercalate_splitOn, ← utf8ByteSize_of_isLetter allowed, size, textSize] at counted
  omega

/-- A text is read if it passes the checks and its parts are written. -/
theorem readOver_eq_ok_iff_fill {octets : Vector UInt8 6} {text : String} {address : Address} :
    readOver octets text = .ok address ↔
      (text.utf8ByteSize = textSize ∧ text.toList.all isLetter) ∧
        fill octets 0 (text.toList.splitOn ':') = some address.octets := by
  unfold readOver
  constructor
  · intro read
    split at read
    · rename_i checked
      split at read
      · rename_i filled written
        cases read
        exact ⟨checked, written⟩
      · cases read
    · cases read
  · rintro ⟨checked, written⟩
    rw [if_pos checked, written]

/-- The texts that name an address are read as that address, and others are not, whatever stood in
the places before. -/
theorem readOver_eq_ok_iff {octets : Vector UInt8 6} {text : String} {address : Address} :
    readOver octets text = .ok address ↔ IsText text.toList address := by
  rw [readOver_eq_ok_iff_fill]
  constructor
  · rintro ⟨⟨size, letters⟩, written⟩
    have allowed := List.all_eq_true.mp letters
    have parts := isLetter_of_mem_part allowed
    obtain ⟨row, valued, -⟩ := (fill_eq_some_iff (Nat.zero_le 6)).mp written
    -- Only now is it known that no place is left out.
    have six := length_parts size allowed ((forall₂_isPart_iff parts).mp valued)
    rw [fill_eq_some_iff_of_six six, forall₂_isPart_iff parts] at written
    exact ⟨_, written, (List.intercalate_splitOn ':').symm⟩
  · rintro ⟨pairs, named, spelled⟩
    have allowed : ∀ letter ∈ text.toList, isLetter letter = true := by
      rw [spelled]
      exact isLetter_of_mem_text named
    have size : text.utf8ByteSize = textSize := by
      rw [utf8ByteSize_of_isLetter allowed, spelled, length_text named]
    have parts := isLetter_of_mem_part allowed
    have parted : text.toList.splitOn ':' = pairs := by
      rw [spelled, splitOn_pairs (by decide) named]
    rw [parted] at parts ⊢
    rw [fill_eq_some_iff_of_six (length_pairs named), forall₂_isPart_iff parts]
    exact ⟨⟨size, List.all_eq_true.mpr allowed⟩, named⟩

/-- There is one cause for which a text is refused. -/
theorem readOver_cases (octets : Vector UInt8 6) (text : String) :
    (∃ address, readOver octets text = .ok address) ∨
      readOver octets text = .error .invalidArguments := by
  unfold readOver
  split
  · split
    · exact .inl ⟨_, rfl⟩
    · exact .inr rfl
  · exact .inr rfl

/-- The texts that name no address are refused. -/
theorem readOver_eq_error_iff {octets : Vector UInt8 6} {text : String} {cause : Error} :
    readOver octets text = .error cause ↔
      cause = .invalidArguments ∧ ∀ address, ¬IsText text.toList address :=
  Error.refused_iff (fun _ => readOver_eq_ok_iff) (readOver_cases octets text)

/-- Every place is written to: nothing that stood there before is ever seen. -/
theorem readOver_eq_parse (octets : Vector UInt8 6) (text : String) :
    readOver octets text = parse text := by
  rcases readOver_cases octets text with ⟨address, read⟩ | refused
  · rw [read]
    exact (readOver_eq_ok_iff.mpr (readOver_eq_ok_iff.mp read)).symm
  · rw [refused]
    exact (readOver_eq_error_iff.mpr (readOver_eq_error_iff.mp refused)).symm

/-! ### What is written -/

/-- The two digits of an octet are a pair that names it. -/
theorem isPair_pair (octet : UInt8) : IsPair (pair octet) octet := by
  have length : (pair octet).length = 2 := by
    rw [pair, List.length_map, Hex.length_digits]
  have lower : (pair octet).map Char.toLower = Hex.digits 2 octet.toNat :=
    Hex.map_toLower_map_toUpper_digits 2 octet.toNat
  refine ⟨length, Hex.denotes_iff.mpr ?_⟩
  rw [length]
  exact ⟨octet.toNat_lt, lower⟩

/-- In upper case there is one pair for each octet. -/
theorem map_toUpper_eq_pair {letters : List Char} {octet : UInt8} (named : IsPair letters octet) :
    letters.map Char.toUpper = pair octet := by
  obtain ⟨length, denoted⟩ := named
  have written := (Hex.denotes_iff.mp denoted).2
  rw [length] at written
  rw [pair, ← written, List.map_map]
  refine List.map_congr_left fun digit shown => ?_
  obtain ⟨value, valued⟩ := denoted.hasValue digit shown
  exact valued.toUpper_toLower.symm

/-- A pair names one octet. -/
theorem IsPair.unique {letters : List Char} {octet other : UInt8} (named : IsPair letters octet)
    (second : IsPair letters other) : octet = other :=
  UInt8.toNat_inj.mp (named.2.unique second.2)

/-- The pairs that are written name the octets. -/
theorem forall₂_pair (address : Address) :
    List.Forall₂ IsPair (address.octets.toList.map pair) address.octets.toList :=
  List.forall₂_map_left_iff.mpr (List.forall₂_same.mpr fun octet _ => isPair_pair octet)

/-- What is written for an address names it. -/
theorem isText_text (address : Address) : IsText address.text.toList address := by
  rw [text, String.toList_ofList]
  exact ⟨_, forall₂_pair address, rfl⟩

/-- A text that names an address is in upper case what is written for it. -/
theorem text_eq_toUpper {written : String} {address : Address}
    (named : IsText written.toList address) : address.text = written.toUpper := by
  obtain ⟨pairs, valued, spelled⟩ := named
  have raised : pairs.map (List.map Char.toUpper) = address.octets.toList.map pair := by
    rw [← List.forall₂_eq_eq_eq, List.forall₂_map_left_iff, List.forall₂_map_right_iff]
    exact valued.imp fun _ _ single => map_toUpper_eq_pair single
  have colon : Char.toUpper ':' = ':' := by decide
  apply String.toList_injective
  show address.text.toList = (written.map Char.toUpper).toList
  rw [String.toList_map, spelled, Joined.map_intercalate, raised, colon, text,
    String.toList_ofList, join]

/-- With a letter between the pairs that no digit is, different addresses are written
differently. -/
theorem join_injective {separator : Char} (foreign : Hex.Foreign separator) :
    Function.Injective (join separator) := by
  intro one other same
  have parted : ∀ address : Address,
      (address.join separator).splitOn separator = address.octets.toList.map pair :=
    fun address => splitOn_pairs foreign (forall₂_pair address)
  have pairs : one.octets.toList.map pair = other.octets.toList.map pair := by
    rw [← parted one, ← parted other, same]
  have single : Function.Injective pair := by
    intro octet another equal
    exact (isPair_pair octet).unique (equal ▸ isPair_pair another)
  have octets : one.octets = other.octets :=
    Vector.toList_inj.mp (List.map_injective_iff.mpr single pairs)
  cases one
  cases other
  cases octets
  rfl

/-- Different addresses have different path segments. -/
theorem pathSegment_injective : Function.Injective pathSegment := by
  intro one other same
  have letters : "dev_".toList ++ one.join '_' = "dev_".toList ++ other.join '_' :=
    String.ofList_injective same
  exact join_injective (by decide) (List.append_cancel_left letters)

/-- Exactly the texts described above are read, each as the address that it names, and every other
text is refused as a malformed argument. Nothing that stood in the six places before is left, and no
part is written that has no place. Every address is read back from its text, every text that is read
is in upper case what is written for its address, and different addresses have different path
segments. -/
theorem parse_octets :
    (∀ text address, parse text = .ok address ↔ IsText text.toList address) ∧
    (∀ text cause, parse text = .error cause ↔
      cause = .invalidArguments ∧ ∀ address, ¬IsText text.toList address) ∧
    (∀ octets text, readOver octets text = parse text) ∧
    (∀ octets parts, 6 < parts.length → fill octets 0 parts = none) ∧
    (∀ address : Address, parse address.text = .ok address) ∧
    (∀ text address, parse text = .ok address → address.text = text.toUpper) ∧
    Function.Injective pathSegment := by
  refine ⟨fun _ _ => readOver_eq_ok_iff, fun _ _ => readOver_eq_error_iff, readOver_eq_parse,
    fun _ _ => fill_eq_none, ?_, ?_, pathSegment_injective⟩
  · exact fun address => readOver_eq_ok_iff.mpr (isText_text address)
  · exact fun text address read => text_eq_toUpper (readOver_eq_ok_iff.mp read)

/-- A text in both cases is read, over whatever octets, and what is written for its address is in
upper case. Seven parts are too many, and addresses that differ in one octet have different path
segments. -/
theorem parse_octets_of_mixed_case :
    let text := "0a:B1:2c:D3:4e:F5"
    let address : Address := ⟨#v[0x0A, 0xB1, 0x2C, 0xD3, 0x4E, 0xF5]⟩
    let neighbour : Address := ⟨#v[0x0A, 0xB1, 0x2C, 0xD3, 0x4E, 0xF6]⟩
    readOver (Vector.replicate 6 0xFF) text = .ok address ∧ address.text = "0A:B1:2C:D3:4E:F5" ∧
      fill address.octets 0 (List.replicate 7 ['0', '0']) = none ∧
      address.pathSegment ≠ neighbour.pathSegment := by
  intro text address neighbour
  obtain ⟨-, -, fresh, crowded, -, raised, different⟩ := parse_octets
  have read : parse text = .ok address := by decide +kernel
  have upper : text.toUpper = "0A:B1:2C:D3:4E:F5" := by decide +kernel
  refine ⟨?_, ?_, crowded address.octets _ (by decide), different.ne (by decide)⟩
  · rw [fresh, read]
  · rw [raised text address read, upper]

end BluetoothHost.Address
