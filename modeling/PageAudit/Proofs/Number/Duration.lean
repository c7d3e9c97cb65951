import PageAudit.Number.Double

/-!
# Durations

A duration is a finite number that is not negative. Of the other numbers most are less than zero;
the rest are those that no finite number is as great as (`isDuration_iff`). How long a system is
able to sleep is another matter: one that counts nanoseconds in 64 bits refuses durations beyond
some 9.2e9 seconds.
-/

namespace PageAudit.Double

/-- A finite number that is not negative, however great: it may be too great for the system to sleep
for. -/
def IsDuration : Double → Prop
  | d@(.finite ..) => d.isNegative = false
  | _ => False

theorem IsDuration.isNegative_eq : ∀ {d : Double}, d.IsDuration → d.isNegative = false
  | .finite _ _ _, h => h

/-- No finite number is as great: the infinity without a minus sign, and what is no number. -/
def IsUnbounded : Double → Prop
  | finite .. => False
  | infinite negative => negative = false
  | notANumber => True

theorem isDuration_iff : ∀ {d : Double}, d.IsDuration ↔ d.isNegative = false ∧ ¬ d.IsUnbounded
  | finite .. => by simp [IsDuration, IsUnbounded]
  | infinite _ => by simp [IsDuration, IsUnbounded, isNegative]
  | notANumber => by simp [IsDuration, IsUnbounded]

theorem IsUnbounded.isNegative_eq : ∀ {d : Double}, d.IsUnbounded → d.isNegative = false
  | infinite _, h => h
  | notANumber, _ => rfl

end PageAudit.Double
