import BluetoothHost.Proofs.Gatt.Contents
import BluetoothHost.Proofs.Gatt.Run

/-!
# What an operation leaves of an attribute

Most operations either do away with an attribute or leave it as it is, as far as one cares to look:
at its contents, say, or at what decides about access to it. Only an update and a write that go to
the attribute, and the setting of its ready flag, may change what is seen. What is added meanwhile
has other handles.
-/

namespace BluetoothHost.Database

variable {B A α : Type} {database before after : Database} {handle : Handle}
  {observe : Attribute → α}

/-- The attribute with a handle, unless it has gone, looks as it did. -/
def Resembles (observe : Attribute → α) (handle : Handle) (before after : Database) : Prop :=
  ∀ entry ∈ after.attributes, entry.handle = handle →
    ∃ other ∈ before.attributes, other.handle = handle ∧ observe entry = observe other

namespace Resembles

/-- What does not change looks as it did. -/
theorem refl (observe : Attribute → α) (handle : Handle) (database : Database) :
    Resembles observe handle database database :=
  fun entry member same => ⟨entry, member, same, rfl⟩

/-- Where attributes go the others look as they did. -/
theorem of_subset (fewer : after.attributes ⊆ before.attributes) :
    Resembles observe handle before after :=
  fun entry member same => ⟨entry, fewer member, same, rfl⟩

/-- What was added has a handle that was not given out before. -/
theorem of_grown {declared? : Handle → Option Declaration} (grown : Grown declared? before after)
    (given : handle.toNat < before.nextHandle) : Resembles observe handle before after :=
  fun entry member same => ⟨entry, grown.old entry member (same ▸ given), same, rfl⟩

/-- Another attribute changed in its place. -/
theorem of_changed {front back : List Attribute} {entry changed : Attribute}
    (attributes_eq : before.attributes = front ++ entry :: back)
    (same : changed.handle = entry.handle)
    (spared : entry.handle ≠ handle ∨ observe changed = observe entry) :
    Resembles observe handle before { before with attributes := front ++ changed :: back } := by
  intro other member named
  rw [List.mem_append, List.mem_cons] at member
  by_cases here : other = changed
  · subst here
    have alike := spared.resolve_left (fun apart => apart (same.symm.trans named))
    exact ⟨entry, by simp [attributes_eq], same.symm.trans named, alike⟩
  · refine ⟨other, ?_, named, rfl⟩
    rw [attributes_eq, List.mem_append, List.mem_cons]
    exact member.imp_right fun behind => .inr (behind.resolve_left here)

end Resembles

/-- Noting a range changes nothing else. -/
theorem materialize_resembles [AttributeServer A]
    (ranges : ∀ (entry : Attribute) range, observe { entry with range } = observe entry)
    (database : Database) (env : Environment B A) :
    Resembles observe handle database (database.materialize env).2.1 := by
  rcases database.materialize_database env with same | ⟨index, range, noted⟩
  · rw [same]
    exact .of_subset fun _ => id
  · rw [noted]
    intro entry member named
    obtain ⟨place, present⟩ := List.mem_iff_getElem?.mp member
    rw [modify, List.getElem?_modify] at present
    obtain ⟨other, there, rfl⟩ := Option.map_eq_some_iff.mp present
    refine ⟨other, List.mem_of_getElem? there, ?_, ?_⟩
    · split at named <;> exact named
    · split
      · exact ranges other (some range)
      · rfl

/-- A ready flag is set or cleared under another handle, or does not matter. -/
theorem setNotifyReady_resembles (orderly : database.Orderly) (other : Handle) (ready : Bool)
    (spared : other ≠ handle ∨
      ∀ entry : Attribute, observe { entry with notifyReady := ready } = observe entry) :
    Resembles observe handle database (database.setNotifyReady other ready).2 := by
  cases found : database.position? other with
  | none =>
    rw [setNotifyReady, found]
    exact .refl observe handle database
  | some index =>
    obtain ⟨entry, above, behind, rfl⟩ := split_of_position? found
    have attributes_eq :
        database.attributes = database.attributes.take index ++ entry :: above := by
      rw [← behind, List.take_append_drop]
    rw [setNotifyReady_split orderly attributes_eq]
    exact .of_changed attributes_eq rfl (spared.imp_right fun kept => kept entry)

/-- A peer writes another attribute, or the ready flag does not matter. -/
theorem write_resembles {E : Type} (database : Database) (uuid : Uuid) (value : List UInt8)
    (handler : AttributeHandler E) (env : E)
    (spared : (∀ entry ∈ database.findUuid? uuid, entry.handle ≠ handle) ∨
      ∀ entry : Attribute, observe { entry with notifyReady := false } = observe entry) :
    Resembles observe handle database (database.write uuid value handler env).2.1 := by
  have written := database.write_written uuid value handler env
  generalize (database.write uuid value handler env).1 = outcome at written
  generalize (database.write uuid value handler env).2.1 = after at written ⊢
  generalize (database.write uuid value handler env).2.2 = next at written
  cases written with
  | missing => exact .refl observe handle database
  | unwritable => exact .refl observe handle database
  | @asked front back entry outcome next found attributes_eq first writable answered =>
    exact .of_changed attributes_eq rfl (spared.imp (· entry found) (· entry))

/-- A client updates another attribute. -/
theorem updateValue_resembles [AttributeServer A] (orderly : database.Orderly) (uuid : Uuid)
    (value : List UInt8) (env : Environment B A)
    (apart : ∀ entry ∈ database.findUuid? uuid, entry.handle ≠ handle) :
    Resembles observe handle database (database.updateValue uuid value env).2.1 := by
  have updated := updateValue_updated orderly uuid value env
  generalize (database.updateValue uuid value env).1 = outcome at updated
  generalize (database.updateValue uuid value env).2.1 = after at updated ⊢
  cases updated with
  | missing => exact .refl observe handle database
  | tooLong => exact .refl observe handle database
  | kept found attributes_eq fits stays =>
    exact .of_changed attributes_eq rfl (.inl (apart _ found))

/-- An operation that changes the attribute with a handle neither by an update nor, as far as that
is observed, in its ready flag. -/
def Spares (observe : Attribute → α) (handle : Handle) (database : Database) :
    Operation B A → Prop
  | .updateValue uuid _ => ∀ entry ∈ database.findUuid? uuid, entry.handle ≠ handle
  | .setNotifyReady other ready => other ≠ handle ∨
      ∀ entry : Attribute, observe { entry with notifyReady := ready } = observe entry
  | .write uuid _ _ => (∀ entry ∈ database.findUuid? uuid, entry.handle ≠ handle) ∨
      ∀ entry : Attribute, observe { entry with notifyReady := false } = observe entry
  | _ => True

/-- What an operation spares looks as it did. -/
theorem perform_resembles [AttributeServer A] (orderly : database.Orderly)
    (given : handle.toNat < database.nextHandle)
    (ranges : ∀ (entry : Attribute) range, observe { entry with range } = observe entry)
    (operation : Operation B A) (env : Environment B A)
    (spared : database.Spares observe handle operation) :
    Resembles observe handle database (database.perform operation env).1 := by
  cases operation with
  | addService uuid =>
    rcases addService_eq orderly uuid with ⟨cause, refused⟩ | ⟨service, next, added⟩
    · simp only [perform, refused]
      exact .refl observe handle database
    · simp only [perform, added]
      exact .of_grown (start_grown orderly next uuid) given
  | addCharacteristic uuid properties permissions =>
    exact .of_grown (add_grown orderly (.characteristic uuid properties permissions)) given
  | addDescriptor uuid permissions =>
    exact .of_grown (add_grown orderly (.descriptor uuid permissions)) given
  | materialize => exact materialize_resembles ranges database env
  | removeService service =>
    rcases database.removeService_cases service env with ⟨cause, refused⟩ |
      ⟨_, _, _, _, stretch, -, -, gone⟩
    · simp only [perform, refused]
      exact .refl observe handle database
    · simp only [perform, gone]
      exact .of_subset stretch.sublist.subset
  | updateValue uuid value => exact updateValue_resembles orderly uuid value env spared
  | setNotifyReady other ready => exact setNotifyReady_resembles orderly other ready spared
  | write uuid value handler => exact database.write_resembles uuid value handler env spared
  | evolve next => exact .refl observe handle database

end BluetoothHost.Database
