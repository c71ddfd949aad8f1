import DatasetSearch.Proofs.Json.Bounds
import DatasetSearch.Proofs.SavedState.Text
import DatasetSearch.Search.View

/-! The numbers of a state that was read.

A state that was read out of a file, or out of none, fits the sizes that it is written with
(`fits_of_load`), as long as the present year does, which is the year of a time of 64 bits
(`yearAt_inInt64`). -/
namespace DatasetSearch
open Json

theorem Calendar.yearAt_inInt64 {now : Int} (h : InInt64 now) : InInt64 (yearAt now) := by
  obtain ⟨hlow, hhigh⟩ := h
  simp only [InInt64, leastInt64, greatestInt64, yearAt, yearOfPeriod, dayNumber] at *
  omega

theorem Account.Session.ensures : Ensures reader Fits := by
  intro levels x s h
  obtain ⟨f, _, h⟩ := Option.bind_eq_some_iff.mp h
  obtain ⟨token, _, h⟩ := Option.bind_eq_some_iff.mp h
  obtain ⟨orcid, _, h⟩ := Option.bind_eq_some_iff.mp h
  obtain ⟨expiresIn, hexpires, h⟩ := Option.bind_eq_some_iff.mp h
  cases h
  exact Ensures.int64.required hexpires

theorem StoredEntry.ensures : Ensures reader Fits := by
  intro levels x r h
  obtain ⟨f, _, h⟩ := Option.bind_eq_some_iff.mp h
  obtain ⟨key, _, h⟩ := Option.bind_eq_some_iff.mp h
  obtain ⟨date, hdate, h⟩ := Option.bind_eq_some_iff.mp h
  obtain ⟨kind, _, h⟩ := Option.bind_eq_some_iff.mp h
  cases h
  exact Ensures.int64.orElse (by decide) hdate

namespace Search

theorem allYears_fits {year : Int} (h : InInt64 year) : (allYears year).Fits :=
  ⟨show InInt64 firstYear by decide, h⟩

namespace View

theorem initial_fits {year : Int} (h : InInt64 year) : (initial year).Fits where
  ranges := by intro r; cases r <;> exact allYears_fits h
  openPanels := nofun

theorem ensures_bounds : Ensures boundsReader Bounds.Fits := by
  intro levels x b h
  obtain ⟨p, hp, rfl⟩ := Option.map_eq_some_iff.mp h
  exact Ensures.int64.pair levels x p hp

theorem ensures {year : Int} (hyear : InInt64 year) : Ensures (reader year) Fits := by
  intro levels x v h
  obtain ⟨f, _, h⟩ := Option.bind_eq_some_iff.mp h
  obtain ⟨sortKey, _, h⟩ := Option.bind_eq_some_iff.mp h
  obtain ⟨direction, _, h⟩ := Option.bind_eq_some_iff.mp h
  obtain ⟨publicationYear, hpublication, h⟩ := Option.bind_eq_some_iff.mp h
  obtain ⟨dataCoverage, hcoverage, h⟩ := Option.bind_eq_some_iff.mp h
  obtain ⟨creationDate, hcreation, h⟩ := Option.bind_eq_some_iff.mp h
  obtain ⟨openPanels, hpanels, h⟩ := Option.bind_eq_some_iff.mp h
  cases h
  have hyears := allYears_fits hyear
  refine ⟨fun r => ?_, (Ensures.nat (twoPow 64)).list.orElse (by simp) hpanels⟩
  cases r with
  | publicationYear => exact ensures_bounds.orElse hyears hpublication
  | dataCoverage => exact ensures_bounds.orElse hyears hcoverage
  | creationDate => exact ensures_bounds.orElse hyears hcreation

end View
end Search

namespace SavedState
open Program (World)

theorem initial_fits {year : Int} (h : InInt64 year) : (initial year).Fits where
  version := show stateVersion < twoPow 32 by decide
  session := nofun
  history := nofun
  view := Search.View.initial_fits h

theorem ensures {year : Int} (hyear : InInt64 year) : Ensures (reader year) Fits := by
  intro levels x s h
  obtain ⟨f, _, h⟩ := Option.bind_eq_some_iff.mp h
  obtain ⟨version, hversion, h⟩ := Option.bind_eq_some_iff.mp h
  obtain ⟨session, hsession, h⟩ := Option.bind_eq_some_iff.mp h
  obtain ⟨history, hhistory, h⟩ := Option.bind_eq_some_iff.mp h
  obtain ⟨view, hview, h⟩ := Option.bind_eq_some_iff.mp h
  obtain ⟨contentTypes, _, h⟩ := Option.bind_eq_some_iff.mp h
  cases h
  exact
    { version := (Ensures.nat (twoPow 32)).orElse (by decide) hversion
      session := Account.Session.ensures.optional.orElse (by simp) hsession
      history := StoredEntry.ensures.list.orElse (by simp) hhistory
      view := (Search.View.ensures hyear).orElse (Search.View.initial_fits hyear) hview }

theorem Fits.upgrade {s : SavedState} (h : s.Fits) : s.upgrade.Fits where
  version := by
    have hversion := h.version
    have hpresent : stateVersion < twoPow 32 := by decide
    simp only [SavedState.upgrade]
    omega
  session := h.session
  history := h.history
  view := h.view

/-- What is loaded fits its sizes. -/
theorem fits_of_load {year : Int} (hyear : InInt64 year) {path : String} {w : World}
    {s : SavedState} (h : ((load year path).run w).1 = .ok s) : s.Fits := by
  simp only [load, Program.run] at h
  split at h
  · cases h
    exact initial_fits hyear
  · cases h
  · split at h
    · next hread =>
      cases h
      exact ((ensures hyear).run hread).upgrade
    · cases h

end SavedState
end DatasetSearch
