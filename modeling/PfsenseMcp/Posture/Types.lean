import Mathlib.Data.Int.Notation
import Mathlib.Data.Nat.Notation
import PfsenseMcp.Tier1.CanonicalForm

/-!
# The axes of the security posture

The enumerations of `security_posture_types.py` with their wire values, and `ReadOnlyAccountMode`
of `security_setup_plan.py`.
-/

namespace Posture

open Tier1

/-- `CapabilityPosture`. -/
inductive CapabilityPosture where
  | readOnly
  | writeProtected
deriving DecidableEq, Repr

namespace CapabilityPosture

/-- The wire value. -/
def value : CapabilityPosture → String
  | readOnly => "read_only"
  | writeProtected => "write_protected"

/-- `CapabilityPosture(value)`; `none` is a `ValueError`. -/
def ofValue (value : Text) : Option CapabilityPosture :=
  [readOnly, writeProtected].find? fun member => Text.ofString member.value = value

theorem value_injective : Function.Injective value := by
  intro p q h
  cases p <;> cases q <;> first | rfl | exact absurd h (by decide)

end CapabilityPosture

/-- `AnchorAssurance`. -/
inductive AnchorAssurance where
  | none
  | software
  | hardwareWitness
  | unknown
deriving DecidableEq, Repr

namespace AnchorAssurance

/-- The wire value. -/
def value : AnchorAssurance → String
  | none => "none"
  | software => "software"
  | hardwareWitness => "hardware_witness"
  | unknown => "unknown"

/-- `AnchorAssurance(value)`; `none` is a `ValueError`. -/
def ofValue (value : Text) : Option AnchorAssurance :=
  [none, software, hardwareWitness, unknown].find? fun member =>
    Text.ofString member.value = value

theorem value_injective : Function.Injective value := by
  intro p q h
  cases p <;> cases q <;> first | rfl | exact absurd h (by decide)

end AnchorAssurance

/-- `ReadOnlyAccountMode`. -/
inductive ReadOnlyAccountMode where
  | bringYourOwn
  | managed
deriving DecidableEq, Repr

namespace ReadOnlyAccountMode

/-- The wire value. -/
def value : ReadOnlyAccountMode → String
  | bringYourOwn => "byo"
  | managed => "managed"

/-- `ReadOnlyAccountMode(value)`; `none` is a `ValueError`. -/
def ofValue (value : Text) : Option ReadOnlyAccountMode :=
  [bringYourOwn, managed].find? fun member => Text.ofString member.value = value

theorem value_injective : Function.Injective value := by
  intro p q h
  cases p <;> cases q <;> first | rfl | exact absurd h (by decide)

end ReadOnlyAccountMode

end Posture
