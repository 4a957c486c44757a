/-!
# Bluetooth UUIDs

Attribute types, service classes and profiles are named by 128-bit numbers. Numbers of 16 and
32 bits are short forms: they stand in the leading 32 bits of the base number. Two UUIDs are
the same when they expand to the same number, whatever form they are written in; that relation
is `≈`, while `=` compares the forms too.
-/

namespace BluetoothHost

/-- A UUID in one of its three forms. -/
inductive Uuid
  /-- A short form of 16 bits. -/
  | uuid16 (number : UInt16)
  /-- A short form of 32 bits. -/
  | uuid32 (number : UInt32)
  /-- The full number. -/
  | uuid128 (number : BitVec 128)
deriving DecidableEq

namespace Uuid

/-- The number into which short forms are placed. -/
def base : BitVec 128 := 0x00000000_0000_1000_8000_00805F9B34FB#128

/-- The full number that a form stands for. -/
def expand : Uuid → BitVec 128
  | uuid16 number => base ||| (BitVec.ofNat 128 number.toNat <<< 96)
  | uuid32 number => base ||| (BitVec.ofNat 128 number.toNat <<< 96)
  | uuid128 number => number

/-- Two forms are the same UUID when they expand to the same number. -/
instance : Setoid Uuid where
  r left right := left.expand = right.expand
  iseqv := ⟨fun _ => rfl, fun same => same.symm, fun first second => first.trans second⟩

/-- What it means to be the same UUID. -/
theorem equiv_iff {left right : Uuid} : left ≈ right ↔ left.expand = right.expand := Iff.rfl

/-- Sameness is decided by comparing the full numbers. -/
instance (left right : Uuid) : Decidable (left ≈ right) :=
  inferInstanceAs (Decidable (left.expand = right.expand))

/-- The type of a primary service declaration. -/
def primaryService : Uuid := uuid16 0x2800

/-- The type of a secondary service declaration. -/
def secondaryService : Uuid := uuid16 0x2801

/-- The type of a characteristic declaration. -/
def characteristic : Uuid := uuid16 0x2803

/-- The headset role of the headset profile. -/
def headset : Uuid := uuid16 0x1108

/-- The source of an audio stream. -/
def audioSource : Uuid := uuid16 0x110A

/-- The sink of an audio stream. -/
def audioSink : Uuid := uuid16 0x110B

/-- The gateway role of the headset profile. -/
def headsetGateway : Uuid := uuid16 0x1112

/-- The unit role of the hands-free profile. -/
def handsFree : Uuid := uuid16 0x111E

/-- The gateway role of the hands-free profile. -/
def handsFreeGateway : Uuid := uuid16 0x111F

end Uuid

end BluetoothHost
