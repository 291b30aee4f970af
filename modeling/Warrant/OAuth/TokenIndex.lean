-- The tokens that are out, by access token and by refresh token. A refresh
-- token leads to the access token that is current for it.
import Warrant.OAuth.Records

namespace Warrant.OAuth

structure TokenIndex where
  byAccess : KeyMap String TokenPair
  byRefresh : KeyMap String String
deriving DecidableEq

namespace TokenIndex

def empty : TokenIndex := ⟨.empty, .empty⟩

/-- Adds a pair under both of its tokens. -/
def store (t : TokenIndex) (p : TokenPair) : TokenIndex :=
  ⟨t.byAccess.insert p.access p, t.byRefresh.insert p.refresh p.access⟩

/-- The pair of a refresh token. -/
def ofRefresh? (t : TokenIndex) (refresh : String) : Option TokenPair := do
  t.byAccess.get? (← t.byRefresh.get? refresh)

/-- Takes out the access token that is current for a refresh token. -/
def retire (t : TokenIndex) (refresh : String) : TokenIndex :=
  match t.byRefresh.get? refresh with
  | some access => { t with byAccess := t.byAccess.erase access }
  | none => t

/-- Puts a pair in under a refresh token, in place of the pair that the
token had. -/
def rotate (t : TokenIndex) (refresh : String) (p : TokenPair) : TokenIndex :=
  let t := t.retire refresh
  ⟨t.byAccess.insert p.access p, t.byRefresh.insert refresh p.access⟩

/-- Takes out an access token, and the refresh token of its pair. -/
def revoke (t : TokenIndex) (access : String) : TokenIndex :=
  match t.byAccess.get? access with
  | some p => ⟨t.byAccess.erase access, t.byRefresh.erase p.refresh⟩
  | none => t

/-! ## Lookups -/

theorem byAccess_store (t : TokenIndex) (p : TokenPair) (access : String) :
    (t.store p).byAccess.get? access =
      if access = p.access then some p else t.byAccess.get? access :=
  KeyMap.get?_insert ..

theorem byRefresh_store (t : TokenIndex) (p : TokenPair) (refresh : String) :
    (t.store p).byRefresh.get? refresh =
      if refresh = p.refresh then some p.access else t.byRefresh.get? refresh :=
  KeyMap.get?_insert ..

theorem byRefresh_retire (t : TokenIndex) (refresh : String) :
    (t.retire refresh).byRefresh = t.byRefresh := by
  unfold retire
  split <;> rfl

theorem byAccess_retire (t : TokenIndex) (refresh access : String) :
    (t.retire refresh).byAccess.get? access =
      if t.byRefresh.get? refresh = some access then none else t.byAccess.get? access := by
  unfold retire
  split
  · rename_i current h
    rw [KeyMap.get?_erase, h]
    simp [eq_comm]
  · rename_i h
    simp [h]

theorem byAccess_rotate (t : TokenIndex) (refresh : String) (p : TokenPair) (access : String) :
    (t.rotate refresh p).byAccess.get? access =
      if access = p.access then some p
      else if t.byRefresh.get? refresh = some access then none
      else t.byAccess.get? access := by
  unfold rotate
  rw [KeyMap.get?_insert, byAccess_retire]

theorem byRefresh_rotate (t : TokenIndex) (refresh : String) (p : TokenPair) (r : String) :
    (t.rotate refresh p).byRefresh.get? r =
      if r = refresh then some p.access else t.byRefresh.get? r := by
  unfold rotate
  rw [KeyMap.get?_insert, byRefresh_retire]

theorem byAccess_revoke (t : TokenIndex) (revoked access : String) :
    (t.revoke revoked).byAccess.get? access =
      if access = revoked then none else t.byAccess.get? access := by
  unfold revoke
  split
  · rw [KeyMap.get?_erase]
  · rename_i h
    split
    · rename_i he
      rw [he, h]
    · rfl

theorem byRefresh_revoke (t : TokenIndex) (revoked refresh : String) :
    (t.revoke revoked).byRefresh.get? refresh =
      if (t.byAccess.get? revoked).map (·.refresh) = some refresh then none
      else t.byRefresh.get? refresh := by
  unfold revoke
  split
  · rename_i p h
    rw [KeyMap.get?_erase, h]
    simp [eq_comm]
  · rename_i h
    simp [h]

end TokenIndex

end Warrant.OAuth
