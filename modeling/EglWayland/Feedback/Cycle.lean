import EglWayland.Feedback.Machine
import Mathlib.Data.List.Basic

/-!
# Conforming feedback cycles

A compositor that follows the protocol sends each advertisement as
`format_table? main_device (tranche_event* tranche_done)* done`.  For such sequences,
with every allocation succeeding, the tranche list after each `done` is the one the
last cycle describes, whatever came in the cycles before: the lazy reset of
`dmabuf_feedback_check_reset_tranches` clears what the previous cycle left, and the
buffering in `tmpTranche` commits each tranche whole.

The reference a cycle is compared with is read off its events directly: the last target
device, the OR of the scanout bits, and the table entries the indices name.
-/

namespace EglWayland

/-!
# Cycles and their reference

A cycle is delivered with every allocation succeeding; its `format_table` event carries the
address `mmap` gives it.  The reference side reads a run of cycles through the table of the most
recent `format_table` (`tableOf`), the entries the indices below its length name
(`tablePairs`), and the last `tranche_target_device` of each tranche.
-/

inductive TrancheEvent where
  | targetDevice (dev : List UInt8)
  | flags (flags : UInt32)
  | formats (indices : List UInt8)

structure TableEvent where
  size : Nat
  file : Nat → FormatTableEntry
  mmap : Option Nat

structure FeedbackCycle where
  formatTable : Option TableEvent
  mainDevice : List UInt8
  tranches : List (List TrancheEvent)

namespace TrancheEvent

def event : TrancheEvent → FeedbackEvent
  | targetDevice dev => .trancheTargetDevice dev
  | flags fl => .trancheFlags fl
  | formats indices => .trancheFormats indices

def step (e : TrancheEvent) : FeedbackEvent × FeedbackEnv := (e.event, .succeed none)

/-- Dev arrays hold one `dev_t`, index arrays whole 16-bit indices. -/
def Conforming : TrancheEvent → Prop
  | targetDevice dev => dev.length = sizeofDevT
  | flags _ => True
  | formats indices => indices.length % 2 = 0

def targetDev? : TrancheEvent → Option Nat
  | targetDevice dev => some (leBytes dev)
  | _ => none

def scanout : TrancheEvent → Bool
  | flags fl => fl &&& trancheFlagsScanout != 0
  | _ => false

def indices : TrancheEvent → List Nat
  | formats idx => wlArrayU16 idx
  | _ => []

end TrancheEvent

namespace FeedbackCycle

def tableSteps : Option TableEvent → List (FeedbackEvent × FeedbackEnv)
  | none => []
  | some t => [(.formatTable t.size t.file, .succeed t.mmap)]

def trancheSteps (evs : List TrancheEvent) : List (FeedbackEvent × FeedbackEnv) :=
  evs.map TrancheEvent.step ++ [(.trancheDone, .succeed none)]

def steps (c : FeedbackCycle) : List (FeedbackEvent × FeedbackEnv) :=
  tableSteps c.formatTable ++ [(.mainDevice c.mainDevice, .succeed none)] ++
    c.tranches.flatMap trancheSteps ++ [(.done, .succeed none)]

def Conforming (c : FeedbackCycle) : Prop :=
  (∀ t ∈ c.formatTable, t.size % sizeofFormatTableEntry = 0) ∧
    c.mainDevice.length = sizeofDevT ∧ ∀ evs ∈ c.tranches, ∀ e ∈ evs, e.Conforming

end FeedbackCycle

/-- A table as the indices see it: its length and its entries. -/
structure TableView where
  len : Nat
  file : Nat → FormatTableEntry

def TableView.empty : TableView := ⟨0, fun _ => ⟨0, 0⟩⟩

def TableEvent.view (t : TableEvent) : TableView :=
  match if t.size = 0 then none else t.mmap with
  | none => .empty
  | some _ => ⟨t.size / sizeofFormatTableEntry, t.file⟩

def tableOf (cycles : List FeedbackCycle) : TableView :=
  ((cycles.filterMap FeedbackCycle.formatTable).getLast?.map TableEvent.view).getD .empty

def tablePairs (v : TableView) (indices : List Nat) : List (UInt32 × UInt64) :=
  (indices.filter (· < v.len)).map fun i => ((v.file i).format, (v.file i).modifier)

def lastTargetDevice (evs : List TrancheEvent) : Nat :=
  ((evs.filterMap TrancheEvent.targetDev?).getLast?).getD 0

def scanoutRequested (evs : List TrancheEvent) : Bool :=
  evs.any TrancheEvent.scanout

def trancheIndices (evs : List TrancheEvent) : List Nat :=
  evs.flatMap TrancheEvent.indices

/-- A committed tranche is the one its events describe. -/
def TrancheMatches (v : TableView) (t : DmaBufTranche) (evs : List TrancheEvent) : Prop :=
  t.drmDev = lastTargetDevice evs ∧ t.supportsScanout = scanoutRequested evs ∧
    ∀ q, q ∈ formatPairs t.formatSet.view ↔ q ∈ tablePairs v (trancheIndices evs)

/-!
# One event at a time

`trancheAdds` lists the adds the loop of `dmabuf_feedback_tranche_formats` makes: one for each
index inside the table.  Inside a cycle a tranche event changes only `tmpTranche`, and the
events of one tranche, from an empty working tranche, build the tranche they describe.
-/

/-- What `tranche_formats` reads through agrees with the table view. -/
def TableOk (p : Proc) (t : FormatTable) (v : TableView) : Prop :=
  t.len = v.len ∧ ∀ i < t.len, formatTableEntryAt p t i = .ok (v.file i)

theorem tableOk_zero (p : Proc) : TableOk p DmaBufFeedback.zero.formatTable .empty :=
  ⟨rfl, fun _ h => absurd h (Nat.not_lt_zero _)⟩

theorem addTrancheFormats_spec {p : Proc} {t : FormatTable} {v : TableView} (hv : TableOk p t v)
    (m : Option Nat) (indices : List Nat) (k : Nat) {set : DmaBufFormatSet} (hset : set.Clean) :
    ∃ set', addTrancheFormats (.succeed m) p t k indices set = .ok set' ∧ set'.Clean ∧
      ∀ q, q ∈ formatPairs set'.view ↔ q ∈ formatPairs set.view ∨ q ∈ tablePairs v indices := by
  induction indices generalizing k set with
  | nil => exact ⟨set, rfl, hset, by simp [tablePairs]⟩
  | cons i rest ih =>
      by_cases hi : t.len ≤ i
      · obtain ⟨set', hrun, hclean, hpairs⟩ := ih (k + 1) hset
        refine ⟨set', by simpa [addTrancheFormats, hi] using hrun, hclean, fun q => ?_⟩
        have hskip : ¬ i < v.len := by rw [← hv.1]; omega
        simp [hpairs, tablePairs, hskip]
      · have hentry := hv.2 i (by omega)
        obtain ⟨set1, hadd, hclean1, hview1⟩ := wlEglFormatSetAdd_spec hset
          (v.file i).format (v.file i).modifier true true
        obtain ⟨set', hrun, hclean, hpairs⟩ := ih (k + 1) hclean1
        refine ⟨set', ?_, hclean, fun q => ?_⟩
        · simpa [addTrancheFormats, hi, hentry, FeedbackEnv.succeed, hadd] using hrun
        · have hlt : i < v.len := by rw [← hv.1]; omega
          have hcons : tablePairs v (i :: rest) =
              ((v.file i).format, (v.file i).modifier) :: tablePairs v rest := by
            simp [tablePairs, hlt]
          rw [hpairs, hview1, mem_formatPairs_formatSetAddSpec, hcons, List.mem_cons]
          tauto

def trancheAdds (env : FeedbackEnv) (v : TableView) :
    Nat → List Nat → List (UInt32 × UInt64 × Bool × Bool)
  | _, [] => []
  | k, i :: rest =>
      if v.len ≤ i then trancheAdds env v (k + 1) rest
      else ((v.file i).format, (v.file i).modifier, env.formats k, env.modifiers k) ::
        trancheAdds env v (k + 1) rest

/-- On a table it can read, the loop is the run of those adds, whatever the allocations
answer. -/
theorem addTrancheFormats_eq_formatSetAddAll {p : Proc} {t : FormatTable} {v : TableView}
    (hv : TableOk p t v) (env : FeedbackEnv) (indices : List Nat) (k : Nat)
    (set : DmaBufFormatSet) :
    addTrancheFormats env p t k indices set = formatSetAddAll set (trancheAdds env v k indices) := by
  induction indices generalizing k set with
  | nil => rfl
  | cons i rest ih =>
      by_cases hi : t.len ≤ i
      · have hskip : v.len ≤ i := hv.1 ▸ hi
        simp only [addTrancheFormats, trancheAdds, hi, hskip, ↓reduceIte, ih]
      · have hlt : ¬ v.len ≤ i := hv.1 ▸ hi
        simp only [addTrancheFormats, trancheAdds, hi, hlt, ↓reduceIte, hv.2 i (by omega),
          except_ok_bind, formatSetAddAll_cons, ih]

theorem checkResetTranches_of_not_done {fb : DmaBufFeedback} (h : fb.feedbackDone = false) :
    dmabufFeedbackCheckResetTranches fb = .ok fb := by
  simp [dmabufFeedbackCheckResetTranches, h]

theorem devOfArray_of_length {dev : List UInt8} (h : dev.length = sizeofDevT) :
    devOfArray dev = .ok (leBytes dev) := by
  simp [devOfArray, h]

theorem trancheEvent_spec {p : Proc} {fb : DmaBufFeedback} {v : TableView}
    (hv : TableOk p fb.formatTable v) (hdone : fb.feedbackDone = false)
    (hclean : fb.tmpTranche.formatSet.Clean) (e : TrancheEvent) (he : e.Conforming) :
    ∃ t, dmabufFeedbackListener (.succeed none) p fb e.event = .ok (p, { fb with tmpTranche := t }) ∧
      t.formatSet.Clean ∧ t.drmDev = e.targetDev?.getD fb.tmpTranche.drmDev ∧
      t.supportsScanout = (fb.tmpTranche.supportsScanout || e.scanout) ∧
      ∀ q, q ∈ formatPairs t.formatSet.view ↔
        q ∈ formatPairs fb.tmpTranche.formatSet.view ∨ q ∈ tablePairs v e.indices := by
  have hreset := checkResetTranches_of_not_done hdone
  cases e with
  | targetDevice dev =>
      refine ⟨{ fb.tmpTranche with drmDev := leBytes dev }, ?_, hclean, rfl, by simp [TrancheEvent.scanout], by
        simp [TrancheEvent.indices, tablePairs]⟩
      simp [dmabufFeedbackListener, TrancheEvent.event, dmabufFeedbackTrancheTargetDevice, hreset,
        devOfArray_of_length he, Except.map]
  | flags fl =>
      by_cases hfl : fl &&& trancheFlagsScanout = 0
      · refine ⟨fb.tmpTranche, ?_, hclean, rfl, by simp [TrancheEvent.scanout, hfl], by
          simp [TrancheEvent.indices, tablePairs]⟩
        simp [dmabufFeedbackListener, TrancheEvent.event, dmabufFeedbackTrancheFlags, hreset, hfl,
          Except.map]
      · refine ⟨{ fb.tmpTranche with supportsScanout := true }, ?_, hclean, rfl, by
          simp [TrancheEvent.scanout, hfl], by simp [TrancheEvent.indices, tablePairs]⟩
        simp [dmabufFeedbackListener, TrancheEvent.event, dmabufFeedbackTrancheFlags, hreset, hfl,
          Except.map]
  | formats idx =>
      have he : idx.length % 2 = 0 := he
      obtain ⟨set, hrun, hset, hpairs⟩ := addTrancheFormats_spec hv none (wlArrayU16 idx) 0 hclean
      refine ⟨{ fb.tmpTranche with formatSet := set }, ?_, hset, rfl, by
        simp [TrancheEvent.scanout], hpairs⟩
      simp [dmabufFeedbackListener, TrancheEvent.event, dmabufFeedbackTrancheFormats, hreset,
        he, hrun, Except.map]

theorem lastTargetDevice_concat (evs : List TrancheEvent) (e : TrancheEvent) :
    lastTargetDevice (evs ++ [e]) = e.targetDev?.getD (lastTargetDevice evs) := by
  cases h : e.targetDev? <;> simp [lastTargetDevice, List.filterMap_append, h]

theorem scanoutRequested_concat (evs : List TrancheEvent) (e : TrancheEvent) :
    scanoutRequested (evs ++ [e]) = (scanoutRequested evs || e.scanout) := by
  simp [scanoutRequested]

theorem tablePairs_trancheIndices_concat (v : TableView) (evs : List TrancheEvent)
    (e : TrancheEvent) :
    tablePairs v (trancheIndices (evs ++ [e])) =
      tablePairs v (trancheIndices evs) ++ tablePairs v e.indices := by
  simp [tablePairs, trancheIndices, List.filter_append]

theorem trancheEvents_spec {p : Proc} {fb : DmaBufFeedback} {v : TableView}
    (hv : TableOk p fb.formatTable v) (hdone : fb.feedbackDone = false)
    (htmp : fb.tmpTranche = .zero) (evs : List TrancheEvent) (hconf : ∀ e ∈ evs, e.Conforming) :
    ∃ t, runFeedback p fb (evs.map TrancheEvent.step) = .ok (p, { fb with tmpTranche := t }) ∧
      t.formatSet.Clean ∧ TrancheMatches v t evs := by
  induction evs using List.reverseRecOn with
  | nil =>
      refine ⟨.zero, by simp [← htmp], DmaBufFormatSet.clean_empty, ?_⟩
      simp [TrancheMatches, lastTargetDevice, scanoutRequested, trancheIndices, tablePairs,
        DmaBufTranche.zero, formatPairs]
  | append_singleton init e ih =>
      obtain ⟨t, hrun, hclean, hdev, hscan, hpairs⟩ :=
        ih fun e' he' => hconf e' (List.mem_append_left _ he')
      obtain ⟨t', hstep, hclean', hdev', hscan', hpairs'⟩ :=
        @trancheEvent_spec p { fb with tmpTranche := t } v hv hdone hclean e
          (hconf e (by simp))
      refine ⟨t', ?_, hclean', ?_, ?_, fun q => ?_⟩
      · simp only [List.map_append, List.map_cons, List.map_nil, runFeedback_append, hrun,
          Except.bind, TrancheEvent.step, runFeedback_cons, hstep]
        rfl
      · rw [hdev', lastTargetDevice_concat, hdev]
      · rw [hscan', scanoutRequested_concat, hscan]
      · rw [hpairs', hpairs, tablePairs_trancheIndices_concat, List.mem_append]

/-!
# One cycle at a time

Resetting settled tranches releases them all without a fault, and the tranches of a cycle are
committed in order.  Any number of conforming cycles from the zeroed feedback leave it settled
on the table of the last `format_table`; the specification's example cycle is checked below.
-/

/-- Between cycles, and between tranches of a cycle: nothing is pending in `tmpTranche`,
the committed tranches have no dangling array, and the table reads as `v`. -/
structure Settled (p : Proc) (v : TableView) (fb : DmaBufFeedback) : Prop where
  table : TableOk p fb.formatTable v
  tmp : fb.tmpTranche = .zero
  tranches : fb.tranches.NotDangling
  clean : ∀ t ∈ fb.tranches.elems, t.formatSet.Clean

theorem settled_zero (p : Proc) : Settled p .empty .zero :=
  ⟨tableOk_zero p, rfl, trivial, fun _ h => by cases h⟩

theorem elems_eq_nil_of_count {α : Type} {a : CArray α} (hnd : a.NotDangling)
    (h : a.count = 0) : a.elems = [] := by
  cases a with
  | null => rfl
  | live xs => simpa using h
  | dangling n => exact hnd.elim

theorem destroyFormatSet_discard_of_clean {set : DmaBufFormatSet} (h : set.Clean) :
    (wlEglDestroyFormatSet set >>= fun _ => pure ()) = (.ok () : Except Fault Unit) := by
  rw [wlEglDestroyFormatSet_of_clean h]
  obtain ⟨formats⟩ := set
  cases formats with
  | null => rfl
  | live xs => rfl
  | dangling n => exact h.1.elim

theorem resetTranches_of_settled {p : Proc} {v : TableView} {fb : DmaBufFeedback}
    (h : Settled p v fb) :
    ∃ tr, wlEglFeedbackResetTranches fb = .ok { fb with tranches := tr } ∧ tr.NotDangling ∧
      tr.elems = [] := by
  by_cases hc : fb.tranches.count = 0
  · exact ⟨fb.tranches, by simp [wlEglFeedbackResetTranches, hc], h.tranches,
      elems_eq_nil_of_count h.tranches hc⟩
  · have hloop : fb.tranches.forEach
        (fun t => wlEglDestroyFormatSet t.formatSet >>= fun _ => pure ()) = .ok () :=
      CArray.forEach_eq_ok h.tranches fun t ht => destroyFormatSet_discard_of_clean (h.clean t ht)
    obtain ⟨a, hfree⟩ : ∃ a, fb.tranches.free = .ok a := by
      cases htr : fb.tranches with
      | null => exact ⟨_, rfl⟩
      | live xs => exact ⟨_, rfl⟩
      | dangling n =>
          have hnd := h.tranches
          rw [htr] at hnd
          exact hnd.elim
    refine ⟨.null, ?_, trivial, rfl⟩
    simp only [wlEglFeedbackResetTranches, hc, ↓reduceIte, h.tmp, DmaBufTranche.zero,
      wlEglDestroyFormatSet_empty, except_ok_bind, hloop, hfree]
    rfl

theorem mainDevice_spec {p : Proc} {v : TableView} {fb : DmaBufFeedback} (h : Settled p v fb)
    (hstart : fb.feedbackDone = true ∨ fb.tranches.elems = []) {dev : List UInt8}
    (hdev : dev.length = sizeofDevT) :
    ∃ fb', dmabufFeedbackListener (.succeed none) p fb (.mainDevice dev) = .ok (p, fb') ∧
      Settled p v fb' ∧ fb'.feedbackDone = false ∧ fb'.tranches.elems = [] := by
  cases hd : fb.feedbackDone
  · refine ⟨{ fb with mainDev := leBytes dev }, ?_, ⟨h.table, h.tmp, h.tranches, h.clean⟩, hd,
      hstart.resolve_left (by simp [hd])⟩
    simp [dmabufFeedbackListener, dmabufFeedbackMainDevice, checkResetTranches_of_not_done hd,
      devOfArray_of_length hdev, Except.map]
  · obtain ⟨tr, hreset, hnd, hnil⟩ := @resetTranches_of_settled p v
      { fb with feedbackDone := false } ⟨h.table, h.tmp, h.tranches, h.clean⟩
    refine ⟨{ fb with feedbackDone := false, tranches := tr, mainDev := leBytes dev }, ?_,
      ⟨h.table, h.tmp, hnd, by simp [hnil]⟩, rfl, hnil⟩
    simp [dmabufFeedbackListener, dmabufFeedbackMainDevice, dmabufFeedbackCheckResetTranches, hd,
      hreset, devOfArray_of_length hdev, Except.map]

theorem trancheDone_spec {p : Proc} {fb : DmaBufFeedback} (hnd : fb.tranches.NotDangling) :
    dmabufFeedbackListener (.succeed none) p fb .trancheDone =
      .ok (p, { fb with
        tranches := .live (fb.tranches.elems ++ [fb.tmpTranche])
        tmpTranche := .zero }) := by
  simp [dmabufFeedbackListener, dmabufFeedbackTrancheDone, FeedbackEnv.succeed,
    CArray.append_of_notDangling hnd, Except.map]

theorem trancheSteps_spec {p : Proc} {v : TableView} (trs : List (List TrancheEvent))
    (hconf : ∀ evs ∈ trs, ∀ e ∈ evs, e.Conforming) {fb : DmaBufFeedback} (h : Settled p v fb)
    (hdone : fb.feedbackDone = false) :
    ∃ fb', runFeedback p fb (trs.flatMap FeedbackCycle.trancheSteps) = .ok (p, fb') ∧
      Settled p v fb' ∧ fb'.feedbackDone = false ∧
      ∃ ts, fb'.tranches.elems = fb.tranches.elems ++ ts ∧ List.Forall₂ (TrancheMatches v) ts trs := by
  induction trs generalizing fb with
  | nil => exact ⟨fb, rfl, h, hdone, [], by simp, .nil⟩
  | cons evs rest ih =>
      obtain ⟨t, hrun, hclean, hmatch⟩ :=
        trancheEvents_spec h.table hdone h.tmp evs (hconf evs (by simp))
      let fb1 : DmaBufFeedback :=
        { fb with tranches := .live (fb.tranches.elems ++ [t]), tmpTranche := .zero }
      have h1 : Settled p v fb1 := by
        refine ⟨h.table, rfl, trivial, fun t' ht' => ?_⟩
        rcases List.mem_append.1 ht' with ht' | ht'
        · exact h.clean t' ht'
        · rw [List.mem_singleton.1 ht']
          exact hclean
      obtain ⟨fb', hrun', h', hdone', ts, helems, hall⟩ :=
        ih (fun evs' h' => hconf evs' (List.mem_cons_of_mem _ h')) h1 hdone
      refine ⟨fb', ?_, h', hdone', t :: ts, by simp [helems, fb1], .cons hmatch hall⟩
      simp only [List.flatMap_cons, FeedbackCycle.trancheSteps, List.append_assoc,
        runFeedback_append, hrun, Except.bind, List.singleton_append, runFeedback_cons]
      simp only [@trancheDone_spec p { fb with tmpTranche := t } h.tranches]
      exact hrun'

def FeedbackCycle.tableAfter (c : FeedbackCycle) (v : TableView) : TableView :=
  match c.formatTable with
  | none => v
  | some t => t.view

theorem tableSteps_spec {p : Proc} {v : TableView} {fb : DmaBufFeedback} (h : Settled p v fb)
    (c : FeedbackCycle) (hc : ∀ t ∈ c.formatTable, t.size % sizeofFormatTableEntry = 0) :
    ∃ p' fb', runFeedback p fb (FeedbackCycle.tableSteps c.formatTable) = .ok (p', fb') ∧
      Settled p' (c.tableAfter v) fb' ∧ fb'.feedbackDone = fb.feedbackDone ∧
      fb'.tranches = fb.tranches := by
  rcases hct : c.formatTable with _ | t
  · exact ⟨p, fb, rfl, by simpa [FeedbackCycle.tableAfter, hct] using h, rfl, rfl⟩
  · have hsize : ¬ t.size % sizeofFormatTableEntry ≠ 0 := not_not.2 (hc t (by simp [hct]))
    simp only [FeedbackCycle.tableAfter, hct, TableEvent.view, FeedbackCycle.tableSteps,
      runFeedback_cons, dmabufFeedbackListener, dmabufFeedbackFormatTable, hsize, ↓reduceIte,
      FeedbackEnv.succeed]
    rcases (if t.size = 0 then none else t.mmap) with _ | a
    · exact ⟨p, _, rfl, ⟨⟨rfl, fun _ hi => absurd hi (Nat.not_lt_zero _)⟩, h.tmp, h.tranches,
        h.clean⟩, rfl, rfl⟩
    · refine ⟨_, _, rfl, ⟨⟨rfl, fun i _ => ?_⟩, h.tmp, h.tranches, h.clean⟩, rfl, rfl⟩
      simp [formatTableEntryAt]

/-- One conforming cycle from a settled feedback: after its `done` the tranches are
exactly the ones the cycle describes. -/
theorem cycle_spec {p : Proc} {v : TableView} {fb : DmaBufFeedback} (h : Settled p v fb)
    (hstart : fb.feedbackDone = true ∨ fb.tranches.elems = []) (c : FeedbackCycle)
    (hc : c.Conforming) :
    ∃ p' fb', runFeedback p fb c.steps = .ok (p', fb') ∧ Settled p' (c.tableAfter v) fb' ∧
      fb'.feedbackDone = true ∧ fb'.unprocessedFeedback = true ∧
      List.Forall₂ (TrancheMatches (c.tableAfter v)) fb'.tranches.elems c.tranches := by
  obtain ⟨p1, fb1, hrun1, h1, hdone1, htr1⟩ := tableSteps_spec h c hc.1
  obtain ⟨fb2, hrun2, h2, hdone2, hnil2⟩ :=
    mainDevice_spec h1 (by rw [hdone1, htr1]; exact hstart) hc.2.1
  obtain ⟨fb3, hrun3, h3, hdone3, ts, helems, hall⟩ := trancheSteps_spec c.tranches hc.2.2 h2 hdone2
  refine ⟨p1, dmabufFeedbackDone fb3, ?_, ⟨h3.table, h3.tmp, h3.tranches, h3.clean⟩, rfl, rfl,
    by simpa [dmabufFeedbackDone, helems, hnil2] using hall⟩
  simp only [FeedbackCycle.steps, runFeedback_append, hrun1, Except.bind, runFeedback_cons,
    hrun2, runFeedback_nil, hrun3]
  rfl

theorem tableOf_concat (cycles : List FeedbackCycle) (c : FeedbackCycle) :
    tableOf (cycles ++ [c]) = c.tableAfter (tableOf cycles) := by
  rcases hct : c.formatTable with _ | t <;>
    simp [tableOf, FeedbackCycle.tableAfter, List.filterMap_append, hct]

theorem runCycles_spec (p : Proc) (cycles : List FeedbackCycle)
    (hconf : ∀ c ∈ cycles, c.Conforming) :
    ∃ p' fb, runFeedback p .zero (cycles.flatMap FeedbackCycle.steps) = .ok (p', fb) ∧
      Settled p' (tableOf cycles) fb ∧ (fb.feedbackDone = true ∨ fb.tranches.elems = []) := by
  induction cycles using List.reverseRecOn with
  | nil => exact ⟨p, .zero, rfl, settled_zero p, .inr rfl⟩
  | append_singleton cycles c ih =>
      obtain ⟨p1, fb1, hrun1, h1, hstart1⟩ :=
        ih fun c' hc' => hconf c' (List.mem_append_left _ hc')
      obtain ⟨p2, fb2, hrun2, h2, hdone2, -⟩ := cycle_spec h1 hstart1 c (hconf c (by simp))
      refine ⟨p2, fb2, ?_, by rw [tableOf_concat]; exact h2, .inl hdone2⟩
      simp only [List.flatMap_append, List.flatMap_cons, List.flatMap_nil, List.append_nil,
        runFeedback_append, hrun1, Except.bind, hrun2]

/-- After the `done` of any conforming cycle, both flags are set and the tranches, in
order, are the ones that cycle alone describes, over the most recent format table. -/
theorem feedback_done_tranches_of_cycle (p : Proc) (cycles : List FeedbackCycle)
    (c : FeedbackCycle) (hconf : ∀ c' ∈ cycles ++ [c], c'.Conforming) :
    ∃ p' fb, runFeedback p .zero ((cycles ++ [c]).flatMap FeedbackCycle.steps) = .ok (p', fb) ∧
      fb.feedbackDone = true ∧ fb.unprocessedFeedback = true ∧ fb.tranches.NotDangling ∧
      List.Forall₂ (TrancheMatches (tableOf (cycles ++ [c]))) fb.tranches.elems c.tranches := by
  obtain ⟨p1, fb1, hrun1, h1, hstart1⟩ :=
    runCycles_spec p cycles fun c' hc' => hconf c' (List.mem_append_left _ hc')
  obtain ⟨p2, fb2, hrun2, h2, hdone2, hunproc2, hall⟩ :=
    cycle_spec h1 hstart1 c (hconf c (by simp))
  refine ⟨p2, fb2, ?_, hdone2, hunproc2, h2.tranches, by rw [tableOf_concat]; exact hall⟩
  simp only [List.flatMap_append, List.flatMap_cons, List.flatMap_nil, List.append_nil,
    runFeedback_append, hrun1, Except.bind, hrun2]

def exampleCycle : FeedbackCycle :=
  ⟨some ⟨48, fun i => ⟨i.toUInt32, 0⟩, some 4096⟩, devZero,
    [[.targetDevice [1, 0, 0, 0, 0, 0, 0, 0], .flags trancheFlagsScanout, .formats [0, 0, 2, 0]]]⟩

theorem exampleCycle_done_tranches :
    (∀ c' ∈ [] ++ [exampleCycle], c'.Conforming) ∧
    ∃ p' fb, runFeedback .empty .zero (([] ++ [exampleCycle]).flatMap FeedbackCycle.steps) =
        .ok (p', fb) ∧
      fb.feedbackDone = true ∧ fb.unprocessedFeedback = true ∧ fb.tranches.NotDangling ∧
      List.Forall₂ (TrancheMatches (tableOf ([] ++ [exampleCycle]))) fb.tranches.elems
        exampleCycle.tranches :=
  have hconf : ∀ c' ∈ [] ++ [exampleCycle], c'.Conforming := by
    simp [exampleCycle, FeedbackCycle.Conforming, TrancheEvent.Conforming, sizeofDevT, devZero,
      sizeofFormatTableEntry]
  ⟨hconf, feedback_done_tranches_of_cycle .empty [] exampleCycle hconf⟩

end EglWayland
