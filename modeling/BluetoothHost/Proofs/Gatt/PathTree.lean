import BluetoothHost.Proofs.Gatt.PublicationOrder

/-!
# Object paths as places in a tree

The path of an object is a single slash, for the root, or names the segments that lead to the object
from the root, each behind a slash. Whether an object lies under a service is decided on the text
alone. A segment has no slash, so the text decides as the segments do: the path of the service is
continued exactly if its segments are. The exception is the root, whose path ends in the slash that
would have to follow it, so nothing else lies under it.
-/

namespace BluetoothHost

/-- Whether a letter may stand in a segment: it is a letter or a digit of ASCII or an underscore. -/
def isSegmentLetter (letter : Char) : Bool :=
  'A' ≤ letter && letter ≤ 'Z' || 'a' ≤ letter && letter ≤ 'z' ||
    '0' ≤ letter && letter ≤ '9' || letter == '_'

/-- A segment of an object path. -/
@[ext]
structure Segment where
  /-- Its letters. -/
  letters : List Char
  /-- There is one at least. -/
  letters_ne_nil : letters ≠ []
  /-- All are allowed. -/
  allowed : letters.all isSegmentLetter = true
deriving DecidableEq

/-- The letters of several segments, each behind a slash. -/
def spell (segments : List Segment) : List Char :=
  segments.flatMap fun segment => '/' :: segment.letters

/-- The path of the object to which these segments lead from the root. -/
def pathOf : List Segment → String
  | [] => "/"
  | first :: rest => String.ofList (spell (first :: rest))

/-- The slash comes before all letters that a segment may have. -/
theorem slash_lt_of_isSegmentLetter {letter : Char} (allowed : isSegmentLetter letter = true) :
    '/' < letter := by
  simp only [isSegmentLetter, Bool.or_eq_true, Bool.and_eq_true, decide_eq_true_eq,
    beq_iff_eq] at allowed
  rcases allowed with ((⟨upper, -⟩ | ⟨lower, -⟩) | ⟨digit, -⟩) | rfl
  · exact UInt32.lt_of_lt_of_le (by decide) upper
  · exact UInt32.lt_of_lt_of_le (by decide) lower
  · exact UInt32.lt_of_lt_of_le (by decide) digit
  · decide

namespace Segment

variable {segment other : Segment} {rest further : List Char}

/-- No segment has a slash. -/
theorem ne_slash {letter : Char} (member : letter ∈ segment.letters) : letter ≠ '/' := by
  have higher := slash_lt_of_isSegmentLetter
    (List.all_eq_true.mp segment.allowed letter member)
  exact fun same => Char.lt_irrefl _ (same ▸ higher)

/-- A text goes on behind a segment with a slash, or is at its end. -/
def Follows (rest : List Char) : Prop := ∀ letter ∈ rest.head?, letter = '/'

/-- So the segment is what stands in front of the first slash. -/
theorem takeWhile_letters (follows : Follows rest) :
    (segment.letters ++ rest).takeWhile (· != '/') = segment.letters := by
  have none : rest.takeWhile (· != '/') = [] := by
    cases rest with
    | nil => rfl
    | cons letter rest =>
      obtain rfl : letter = '/' := follows letter rfl
      rfl
  rw [List.takeWhile_append_of_pos fun letter member => bne_iff_ne.mpr (ne_slash member), none,
    List.append_nil]

/-- One text begins with one segment, and goes on in one way. -/
theorem eq_of_append (follows : Follows rest) (alike : Follows further)
    (same : segment.letters ++ rest = other.letters ++ further) :
    segment = other ∧ rest = further := by
  have letters := congrArg (List.takeWhile (· != '/')) same
  rw [takeWhile_letters follows, takeWhile_letters alike] at letters
  rw [letters] at same
  exact ⟨Segment.ext letters, List.append_cancel_left same⟩

end Segment

open Segment (Follows)

/-- Paths are spelled one behind the other. -/
theorem spell_append (segments more : List Segment) :
    spell (segments ++ more) = spell segments ++ spell more := List.flatMap_append

/-- A segment is spelled with its slash. -/
theorem spell_cons (segment : Segment) (rest : List Segment) :
    spell (segment :: rest) = '/' :: (segment.letters ++ spell rest) := List.flatMap_cons ..

/-- A spelled path begins with a slash or is empty. -/
theorem follows_spell (segments : List Segment) : Follows (spell segments) := by
  intro letter first
  cases segments with
  | nil => cases first
  | cons segment rest =>
    rw [spell_cons, List.head?_cons] at first
    exact (Option.some.inj first).symm

/-- Segments whose letters are continued are continued themselves. -/
theorem prefix_of_spell {root segments : List Segment} {rest : List Char} (follows : Follows rest)
    (continued : spell segments = spell root ++ rest) : root <+: segments := by
  induction root generalizing segments with
  | nil => exact List.nil_prefix
  | cons first root ih =>
    rw [spell_cons, List.cons_append] at continued
    cases segments with
    | nil => cases continued
    | cons segment others =>
      rw [spell_cons, List.append_assoc] at continued
      have behind : Follows (spell root ++ rest) := by
        intro letter head
        rw [List.head?_append] at head
        rcases Option.or_eq_some_iff.mp head with inner | ⟨-, outer⟩
        · exact follows_spell root letter inner
        · exact follows letter outer
      obtain ⟨rfl, others_eq⟩ := Segment.eq_of_append (follows_spell others) behind
        (List.cons.inj continued).2
      exact (List.prefix_cons_inj _).mpr (ih others_eq)

/-- A path below the root is spelled by its segments. -/
theorem toList_pathOf {segments : List Segment} (inner : segments ≠ []) :
    (pathOf segments).toList = spell segments := by
  cases segments with
  | nil => exact absurd rfl inner
  | cons first rest => exact String.toList_ofList

/-- No path has two slashes in a row at its beginning. -/
theorem toList_pathOf_ne (segments : List Segment) (rest : List Char) :
    (pathOf segments).toList ≠ '/' :: '/' :: rest := by
  intro double
  cases segments with
  | nil => exact absurd (congrArg List.length double) (by simp [pathOf])
  | cons first others =>
    obtain ⟨letter, more, letters⟩ := List.exists_cons_of_ne_nil first.letters_ne_nil
    rw [toList_pathOf (List.cons_ne_nil _ _), spell_cons, letters] at double
    have slash : letter = '/' := (List.cons.inj (List.cons.inj double).2).1
    exact Segment.ne_slash (letters ▸ List.mem_cons_self) slash

/-- Different segments make different paths. -/
theorem pathOf_injective : Function.Injective pathOf := by
  intro one other same
  have letters := congrArg String.toList same
  cases one with
  | nil =>
    cases other with
    | nil => rfl
    | cons segment rest =>
      rw [toList_pathOf (List.cons_ne_nil _ _), spell_cons] at letters
      have none := (List.cons.inj letters).2
      exact absurd (List.append_eq_nil_iff.mp none.symm).1 segment.letters_ne_nil
  | cons first others =>
    cases other with
    | nil =>
      rw [toList_pathOf (List.cons_ne_nil _ _), spell_cons] at letters
      have none := (List.cons.inj letters).2
      exact absurd (List.append_eq_nil_iff.mp none).1 first.letters_ne_nil
    | cons segment rest =>
      rw [toList_pathOf (List.cons_ne_nil _ _), toList_pathOf (List.cons_ne_nil _ _)] at letters
      have none : Follows [] := nofun
      have towards := prefix_of_spell none (letters.trans (List.append_nil _).symm)
      have back := prefix_of_spell none (letters.symm.trans (List.append_nil _).symm)
      exact back.eq_of_length_le towards.length_le

/-! ### Descendants -/

/-- Inside the tree a path lies under another if the segments of the other lead towards it. -/
theorem under_pathOf_iff {root : List Segment} (inner : root ≠ []) (segments : List Segment) :
    Under (pathOf root) (pathOf segments) ↔ root <+: segments := by
  constructor
  · intro under
    obtain ⟨rest, follows, continued⟩ : ∃ rest, Follows rest ∧
        (pathOf segments).toList = spell root ++ rest := by
      rw [← toList_pathOf inner]
      rcases under with same | ⟨rest, continued⟩
      · exact ⟨[], nofun, by rw [same, List.append_nil]⟩
      · refine ⟨'/' :: rest.toList, fun letter head => (Option.some.inj head).symm, ?_⟩
        rw [continued, String.append_assoc, String.toList_append, String.toList_append]
        rfl
    cases segments with
    | nil =>
      -- The path of the root has no letter for the first segment.
      obtain ⟨first, others, rfl⟩ := List.exists_cons_of_ne_nil inner
      rw [spell_cons] at continued
      have none := (List.cons.inj continued).2
      have missing := (List.append_eq_nil_iff.mp (List.append_eq_nil_iff.mp none.symm).1).1
      exact absurd missing first.letters_ne_nil
    | cons segment others =>
      rw [toList_pathOf (List.cons_ne_nil _ _)] at continued
      exact prefix_of_spell follows continued
  · rintro ⟨more, rfl⟩
    cases more with
    | nil => exact .inl (by rw [List.append_nil])
    | cons segment others =>
      refine .inr ⟨String.ofList (segment.letters ++ spell others), String.toList_inj.mp ?_⟩
      have continued : root ++ segment :: others ≠ [] := by simp
      rw [String.append_assoc, String.toList_append, String.toList_append,
        toList_pathOf continued, toList_pathOf inner, String.toList_ofList, String.toList_ofList,
        spell_append, spell_cons, List.singleton_append]

/-- Under the root there is nothing but the root. -/
theorem under_root_iff (segments : List Segment) :
    Under (pathOf []) (pathOf segments) ↔ pathOf segments = pathOf [] := by
  constructor
  · rintro (same | ⟨rest, continued⟩)
    · exact same
    · have letters := congrArg String.toList continued
      rw [String.append_assoc, String.toList_append, String.toList_append] at letters
      exact absurd letters (toList_pathOf_ne segments rest.toList)
  · exact .inl

namespace Publications

variable {publications : Publications} {client : String} {record : PublishedService}
  {object : PublishedObject}

/-- An object is taken by the only service of its client, if that has room, exactly if it lies under
the service. -/
theorem publish_single
    (single : publications.services.filter (PublishedService.isOwnedBy client) = [record])
    (room : record.objects.length < Limits.publishedObjects) :
    (publications.publish client object).1 = true ↔ object.isUnder record.path.value = true := by
  have only {service : PublishedService} : service ∈ publications.services ∧
      service.isOwnedBy client = true ↔ service = record := by
    rw [← List.mem_filter, single, List.mem_singleton]
  have fits : (record.publish? object).isSome = true :=
    PublishedService.publish?_isSome_iff.mpr (.inr room)
  rw [publish_eq, publishAmong_eq]
  cases found : publications.services.find? (PublishedService.takes client object) with
  | none =>
    obtain ⟨there, own⟩ := only.mpr rfl
    have passed := List.find?_eq_none.mp found record there
    simp only [PublishedService.takes, own, Bool.true_and] at passed
    exact iff_of_false Bool.false_ne_true passed
  | some service =>
    have takes : service.takes client object = true := List.find?_some found
    obtain ⟨own, under⟩ := Bool.and_eq_true_iff.mp takes
    obtain rfl := only.mp ⟨List.mem_of_find?_eq_some found, own⟩
    obtain ⟨made, published⟩ := Option.isSome_iff_exists.mp fits
    rw [Option.bind_some, published]
    exact iff_of_true rfl under

/-- If a client has one service and it has room, an object is taken exactly if it has the path of
the service, or the service is not at the root and its segments lead towards the object. At the root
the service takes nothing else. -/
theorem publish_descendant
    (single : publications.services.filter (PublishedService.isOwnedBy client) = [record])
    (room : record.objects.length < Limits.publishedObjects) {root segments : List Segment}
    (rooted : record.path.value = pathOf root) (placed : object.path.value = pathOf segments) :
    (publications.publish client object).1 = true ↔
      object.path = record.path ∨ root ≠ [] ∧ root <+: segments := by
  have paths : object.path = record.path ↔ pathOf segments = pathOf root := by
    rw [← rooted, ← placed]
    exact ⟨congrArg Text.value, Text.eq_of_value⟩
  rw [publish_single single room, PublishedObject.isUnder_iff, rooted, placed, paths]
  by_cases outer : root = []
  · subst outer
    rw [under_root_iff]
    simp
  · rw [under_pathOf_iff outer]
    constructor
    · exact fun leads => .inr ⟨outer, leads⟩
    · rintro (same | ⟨-, leads⟩)
      · exact (under_pathOf_iff outer segments).mp (.inl same)
      · exact leads

/-- A service at the root does not take the object next to the root. A service further inside takes
what is below it, and nothing beside it whose name only goes on. -/
theorem publish_descendant_of_root :
    let object (path : String) (fits : path.utf8ByteSize ≤ Limits.objectPath) : PublishedObject :=
      { path := ⟨path, fits⟩, interface := .characteristic }
    let atRoot := (register {} ":1.7" "/" ⟨1⟩).2
    let inside := (register {} ":1.7" "/app" ⟨1⟩).2
    (atRoot.publish ":1.7" (object "/app" (by decide))).1 = false ∧
      (inside.publish ":1.7" (object "/app/level" (by decide))).1 = true ∧
      (inside.publish ":1.7" (object "/app2" (by decide))).1 = false := by
  intro object atRoot inside
  let app : Segment := ⟨['a', 'p', 'p'], by decide, by decide⟩
  let neighbour : Segment := ⟨['a', 'p', 'p', '2'], by decide, by decide⟩
  let level : Segment := ⟨['l', 'e', 'v', 'e', 'l'], by decide, by decide⟩
  let service (path : String) (fits : path.utf8ByteSize ≤ Limits.objectPath) : PublishedService :=
    { owner := ⟨":1.7", by decide⟩, path := ⟨path, fits⟩, registration := some ⟨1⟩ }
  have outer : atRoot.services.filter (PublishedService.isOwnedBy ":1.7") =
      [service "/" (by decide)] := by decide
  have inner : inside.services.filter (PublishedService.isOwnedBy ":1.7") =
      [service "/app" (by decide)] := by decide
  have room (path : String) (fits : path.utf8ByteSize ≤ Limits.objectPath) :
      (service path fits).objects.length < Limits.publishedObjects := by
    show 0 < 16
    decide
  have refused := @publish_descendant atRoot ":1.7" _ (object "/app" (by decide)) outer
    (room _ _) [] [app] rfl rfl
  have taken := @publish_descendant inside ":1.7" _ (object "/app/level" (by decide)) inner
    (room _ _) [app] [app, level] rfl rfl
  have beside := @publish_descendant inside ":1.7" _ (object "/app2" (by decide)) inner
    (room _ _) [app] [neighbour] rfl rfl
  refine ⟨Bool.eq_false_iff.mpr (mt refused.mp ?_), taken.mpr (.inr ⟨by decide, by decide⟩),
    Bool.eq_false_iff.mpr (mt beside.mp ?_)⟩
  · decide
  · decide

end Publications

end BluetoothHost
