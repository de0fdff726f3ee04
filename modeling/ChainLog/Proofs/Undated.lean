/-
# Stores without their dates

When a row was written is kept with it and never asked for: what an append looks up and what
it writes are the same if the dates of the rows are left out (`Store.undated`), whatever the
clock says.  So of two stores that differ in their dates alone an append makes two stores that
differ in their dates alone, or fails on both in the same way.
-/
import ChainLog.Proofs.Masking

namespace ChainLog

set_option autoImplicit false

def Record.undated (r : Record) : Record := { r with createdAt := default }

def Tip.undated (t : Tip) : Tip := { t with updatedAt := default }

/-- The tables without the dates of their rows. -/
def Store.undated (s : Store) : Store := ⟨s.records.map Record.undated, s.tips.map Tip.undated⟩

/-- The mask that leaves out the dates. -/
def Mask.undating : Mask := ⟨id, fun _ => default⟩

variable {s s' u : Store} {d : Draft} {e : Entry} {p : Plan} {planned now : Time.Instant}

theorem Draft.commit_map_undated (d : Draft) (e : Entry) (p : Plan)
    (planned now planned' now' : Time.Instant) (same : u.undated = s.undated) :
    (d.commit u ⟨e, p, planned'⟩ now').map Store.undated =
      (d.commit s ⟨e, p, planned⟩ now).map Store.undated := by
  have undated (s : Store) (planned now : Time.Instant) :
      d.commit s.undated ⟨e, p, default⟩ default =
        (d.commit s ⟨e, p, planned⟩ now).map Store.undated :=
    Mask.undating.draftCommit_masked (p := ⟨e, p, planned⟩)
  rw [← undated u planned' now', same, undated s planned now]

theorem Draft.commit_error_of_undated {err : AppendError} (planned' now' : Time.Instant)
    (same : u.undated = s.undated)
    (failed : d.commit s ⟨e, p, planned⟩ now = .error err) :
    d.commit u ⟨e, p, planned'⟩ now' = .error err := by
  have both := commit_map_undated d e p planned now planned' now' same
  rw [failed] at both
  cases made : d.commit u ⟨e, p, planned'⟩ now' with
  | error failure => rw [made] at both; exact both
  | ok u' => rw [made] at both; cases both

end ChainLog
