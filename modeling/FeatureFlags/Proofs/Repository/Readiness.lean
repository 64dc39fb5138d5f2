import FeatureFlags.Repository.Update

/-!
# The readiness of a repository

Listeners are told of the readiness, and do not change it. Features that were received make an
open repository ready, a failure makes it failed, and whoever closes it or takes back that it is
ready leaves it not ready. Nothing else changes the readiness.
-/

set_option autoImplicit false

namespace FeatureFlags.Repository

/-- Telling an audience leaves the readiness as it is. -/
@[simp] theorem readiness_announce (r : Repository) (a : Audience) (notice : Notice) :
    (r.announce a notice).readiness = r.readiness := by
  unfold announce
  split <;> rfl

/-- Telling the readiness leaves it as it is. -/
@[simp] theorem readiness_announceReadiness (r : Repository) :
    r.announceReadiness.readiness = r.readiness := readiness_announce ..

/-- Errors that are logged leave the readiness as it is. -/
@[simp] theorem readiness_logErrors (r : Repository) (n : Nat) :
    (r.logErrors n).readiness = r.readiness := rfl

/-- Asking for a feature leaves the readiness as it is. -/
theorem readiness_getFeature (r : Repository) (key : String) :
    (r.getFeature key).1.readiness = r.readiness := by
  unfold getFeature obtain
  cases r.lookup? key <;> simp only <;> split <;> rfl

/-- A repository that fails has failed, be it open or closed. -/
theorem readiness_fail (r : Repository) : r.fail.readiness = .failed :=
  readiness_announceReadiness _

/-- A repository that is told so is not ready, be it open or closed. -/
theorem readiness_notReady (r : Repository) : r.notReady.readiness = .notReady := by
  unfold notReady
  simp only
  split
  · rfl
  · exact readiness_announceReadiness _

/-- An open repository that is closed is not ready. -/
theorem readiness_close (r : Repository) :
    r.close.readiness = if r.isClosed then r.readiness else .notReady := by
  unfold close
  split
  · rfl
  · exact readiness_announceReadiness _

/-- A batch makes an open repository ready, whatever is in it. -/
theorem readiness_updateFeatures {r : Repository} (h : r.isClosed = false)
    (states : List FeatureState) (force : Bool) :
    (r.updateFeatures states force).readiness = .ready := by
  unfold updateFeatures
  rw [if_neg (by simp [h])]
  simp only [readiness_announce]
  split
  · exact readiness_announceReadiness _
  · rfl

end FeatureFlags.Repository
