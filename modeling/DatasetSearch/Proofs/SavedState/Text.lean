import DatasetSearch.Proofs.Json.Reading
import DatasetSearch.SavedState

/-! The text of a saved state tells the state.

`run_text`: what is read from the text of a state is that state, with the keys of its history in
their order, however often one is repeated, and with the kinds that entries lack. The numbers of a
state have to fit the bits that the text has room for (`Fits`). -/
namespace DatasetSearch
open Json

/-! ### Sessions -/

namespace Account.Session

def Fits (s : Session) : Prop := InInt64 s.expiresIn

instance (s : Session) : Decidable s.Fits := inferInstanceAs (Decidable (InInt64 _))

theorem whole_toJson (s : Session) : s.toJson.Whole := .object (by simp [Whole.text, Whole.int])

theorem reads {s : Session} (h : s.Fits) : Reads reader 1 s.toJson s := by
  refine Reads.record (by simp) (by simp) fun levels hlevels => ?_
  rw [Reader.Fields.required_written (by rfl) (.text s.token) hlevels,
    Reader.Fields.required_written (by rfl) (.text s.orcid) hlevels,
    Reader.Fields.required_written (by rfl) (.int64 h) hlevels]
  rfl

end Account.Session

/-! ### Histories -/

namespace StoredEntry

def Fits (r : StoredEntry) : Prop := InInt64 r.date

instance (r : StoredEntry) : Decidable r.Fits := inferInstanceAs (Decidable (InInt64 _))

theorem whole_toJson (r : StoredEntry) : r.toJson.Whole := by
  cases hkind : r.kind <;> exact .object (by simp [hkind, Whole.text, Whole.int])

theorem reads {r : StoredEntry} (h : r.Fits) : Reads reader 1 r.toJson r := by
  obtain ⟨key, date, kind⟩ := r
  cases kind with
  | none =>
    refine Reads.record (by simp) (by simp) fun levels hlevels => ?_
    rw [Reader.Fields.required_written (by rfl) (.text key) hlevels,
      Reader.Fields.orElse_written (by rfl) (.int64 h) hlevels,
      Reader.Fields.orElse_missing (by rfl)]
    rfl
  | some kind =>
    have hkind : Reads (.optional .text) 0 (.text kind) (some kind) :=
      (Reads.text kind).optional_some (by simp [spell])
    refine Reads.record (by simp) (by simp) fun levels hlevels => ?_
    rw [Reader.Fields.required_written (by rfl) (.text key) hlevels,
      Reader.Fields.orElse_written (by rfl) (.int64 h) hlevels,
      Reader.Fields.orElse_written (by rfl) hkind hlevels]
    rfl

end StoredEntry

/-! ### The results page -/

def Bounds.Fits (b : Bounds) : Prop := InInt64 b.low ∧ InInt64 b.high

instance (b : Bounds) : Decidable b.Fits := inferInstanceAs (Decidable (_ ∧ _))

namespace Search

theorem SortKey.lookup_text (k : SortKey) : SortKey.names.lookup k.text = some k := by
  cases k <;> decide

theorem Direction.lookup_text (d : Direction) : Direction.names.lookup d.text = some d := by
  cases d <;> decide

namespace View

structure Fits (v : View) : Prop where
  ranges : ∀ r, (v.range r).Fits
  openPanels : ∀ i ∈ v.openPanels, i < twoPow 64

theorem whole_boundsJson (b : Bounds) : (boundsJson b).Whole := .list (by simp [Whole.int])

theorem whole_toJson (v : View) : v.toJson.Whole := by
  have hpanels : (Json.list (v.openPanels.map fun (i : Nat) => .int i)).Whole :=
    .list (by simp [Whole.int])
  exact .object (by simp [Whole.text, whole_boundsJson, hpanels])

theorem reads_bounds {b : Bounds} (h : b.Fits) : Reads boundsReader 1 (boundsJson b) b := by
  intro levels hlevels
  have hpair : Reads (.pair .int64) 1 (boundsJson b) (b.low, b.high) :=
    .pair (.int64 h.1) (.int64 h.2)
  rw [boundsReader, hpair levels hlevels]
  rfl

theorem reads {v : View} (h : v.Fits) (year : Int) : Reads (reader year) 2 v.toJson v := by
  have hpanels : Reads (.list (.nat (twoPow 64))) 1
      (.list (v.openPanels.map fun (i : Nat) => .int i)) v.openPanels :=
    Reads.list fun i hi => .nat (h.openPanels i hi) (Nat.le_refl _)
  refine Reads.record (by simp) (by simp) fun levels hlevels => ?_
  have hlevel : 0 ≤ levels := Nat.zero_le levels
  rw [Reader.Fields.orElse_written (by rfl) (.name v.sortKey.lookup_text) hlevel,
    Reader.Fields.orElse_written (by rfl) (.name v.direction.lookup_text) hlevel,
    Reader.Fields.orElse_written (by rfl) (reads_bounds (h.ranges .publicationYear)) hlevels,
    Reader.Fields.orElse_written (by rfl) (reads_bounds (h.ranges .dataCoverage)) hlevels,
    Reader.Fields.orElse_written (by rfl) (reads_bounds (h.ranges .creationDate)) hlevels,
    Reader.Fields.orElse_written (by rfl) hpanels hlevels]
  rfl

end View
end Search

/-! ### The whole state -/

namespace SavedState

/-- The numbers of a state are of the sizes that its text is read with. -/
structure Fits (s : SavedState) : Prop where
  version : s.version < twoPow 32
  session : ∀ x ∈ s.session, x.Fits
  history : ∀ r ∈ s.history, r.Fits
  view : s.view.Fits

theorem whole_toJson (s : SavedState) : s.toJson.Whole := by
  have hsession : ((s.session.map Account.Session.toJson).getD .null).Whole := by
    cases s.session with
    | none => exact .null
    | some session => exact session.whole_toJson
  have hhistory : (Json.list (s.history.map StoredEntry.toJson)).Whole :=
    .list (by simp [StoredEntry.whole_toJson])
  have htypes : (Json.list (s.contentTypes.map .text)).Whole := .list (by simp [Whole.text])
  exact .object (by simp [Whole.int, hsession, hhistory, s.view.whole_toJson, htypes])

theorem reads {s : SavedState} (h : s.Fits) (year : Int) : Reads (reader year) 3 s.toJson s := by
  have hversion : Reads (.nat (twoPow 32)) 0 (.int s.version) s.version :=
    .nat h.version (by decide)
  have hsession : Reads (.optional Account.Session.reader) 1
      ((s.session.map Account.Session.toJson).getD .null) s.session :=
    Reads.optional (fun x hx => Account.Session.reads (h.session x hx))
      (by simp [Account.Session.toJson, spell])
  have hhistory : Reads (.list StoredEntry.reader) 2 (.list (s.history.map StoredEntry.toJson))
      s.history := Reads.list fun r hr => StoredEntry.reads (h.history r hr)
  have htypes : Reads (.list .text) 1 (.list (s.contentTypes.map .text)) s.contentTypes :=
    Reads.list fun t _ => .text t
  refine Reads.record (by simp [fieldNames]) (by simp) fun levels hlevels => ?_
  have hlevel : 0 ≤ levels ∧ 1 ≤ levels := by omega
  rw [Reader.Fields.orElse_written (by rfl) hversion hlevel.1,
    Reader.Fields.orElse_written (by rfl) hsession hlevel.2,
    Reader.Fields.orElse_written (by rfl) hhistory hlevels,
    Reader.Fields.orElse_written (by rfl) (Search.View.reads h.view year) hlevels,
    Reader.Fields.orElse_written (by rfl) htypes hlevel.2]
  rfl

/-- Reading the text of a state gives the state. -/
theorem run_text {s : SavedState} (h : s.Fits) (year : Int) : (reader year).run s.text = some s :=
  (reads h year).run_pretty s.whole_toJson (by decide)

end SavedState
end DatasetSearch
