import EglWayland.Feedback.Cycle

/-!
# The feedback under any order of events

The compositor is not trusted to follow the protocol, so the seven events of
`zwp_linux_dmabuf_feedback_v1` may arrive in any order and any number.  This module shows
that the handlers, and the `wlEglDestroyFeedback` that ends the feedback's life, never
touch released storage as long as the payloads are ones their `assert`s accept and one rule
of the protocol holds: the formats of a tranche are closed by `tranche_done` before the
`done` of the advertisement.  Every other order is allowed: `main_device` anywhere,
repeated `done`s, tranches without formats, tables replaced at any time, and every
allocation failure that the code survives.

The rule cannot be dropped: a `done` that arrives while the working tranche holds formats
and a tranche has been committed makes the lazy reset free the working set without
clearing it, and the next `tranche_formats` reads the released array.

Over every run that completes, the mappings of the format tables are never unmapped but
for the table current when the feedback is destroyed.
-/

namespace EglWayland

/-! # What an event needs -/

/-- An event the handlers accept: a `dev_t` array of `sizeof(dev_t)` bytes, an index array of
whole 16-bit indices, a table of whole entries, and for `tranche_done` the `realloc` its
`assert` checks.  The `realloc`s of format sets and `mmap` may fail. -/
def FeedbackEvent.Acceptable (env : FeedbackEnv) : FeedbackEvent → Prop
  | .mainDevice dev => dev.length = sizeofDevT
  | .trancheTargetDevice dev => dev.length = sizeofDevT
  | .trancheFormats indices => indices.length % 2 = 0
  | .formatTable size _ => size % sizeofFormatTableEntry = 0
  | .trancheDone => env.tranches = true
  | .done => True
  | .trancheFlags _ => True

instance (env : FeedbackEnv) (e : FeedbackEvent) : Decidable (e.Acceptable env) :=
  match e with
  | .mainDevice dev => inferInstanceAs (Decidable (dev.length = sizeofDevT))
  | .trancheTargetDevice dev => inferInstanceAs (Decidable (dev.length = sizeofDevT))
  | .trancheFormats indices => inferInstanceAs (Decidable (indices.length % 2 = 0))
  | .formatTable size _ => inferInstanceAs (Decidable (size % sizeofFormatTableEntry = 0))
  | .trancheDone => inferInstanceAs (Decidable (env.tranches = true))
  | .done => isTrue trivial
  | .trancheFlags _ => isTrue trivial

def FeedbackEvent.pendingAfter (pending : Bool) : FeedbackEvent → Bool
  | .trancheFormats _ => true
  | .trancheDone => false
  | _ => pending

def FeedbackEvent.isDone : FeedbackEvent → Bool
  | .done => true
  | _ => false

/-- The protocol's rule for the formats: no `done` while formats sent since the last
`tranche_done` wait for one; `pending` says whether some do at the start. -/
def formatsClosed : Bool → List FeedbackEvent → Bool
  | _, [] => true
  | pending, e :: rest => !(e.isDone && pending) && formatsClosed (e.pendingAfter pending) rest

/-!
# The invariant

`TableReadable` says that every entry below the table's length can be read through a live
mapping.  The feedback of a `calloc`ed display is sound once `get_default_feedback` has stored
its proxy.
-/

def TableReadable (p : Proc) (t : FormatTable) : Prop :=
  ∀ i < t.len, ∃ e, formatTableEntryAt p t i = .ok e

/-- The feedback under any order, with `pending` as in `formatsClosed`: no array of the
tranches is dangling, the table is readable, and the working set is empty while no formats
are pending and while a `done` waits for the reset of the next advertisement; the proxy is
`NULL` or live. -/
structure FeedbackSound (p : Proc) (pending : Bool) (fb : DmaBufFeedback) : Prop where
  table : TableReadable p fb.formatTable
  tranches : fb.tranches.NotDangling
  committed : ∀ t ∈ fb.tranches.elems, t.formatSet.Clean
  tmp : fb.tmpTranche.formatSet.Clean
  idle : pending = false → fb.tmpTranche.formatSet = .empty
  done : fb.feedbackDone = true → fb.tmpTranche.formatSet = .empty
  proxy : fb.wlDmaBufFeedback = 0 ∨ fb.wlDmaBufFeedback ∈ p.proxies

theorem feedbackSound_zero {p : Proc} {proxy : Nat} (hproxy : proxy = 0 ∨ proxy ∈ p.proxies) :
    FeedbackSound p false { DmaBufFeedback.zero with wlDmaBufFeedback := proxy } :=
  ⟨fun _ h => absurd h (Nat.not_lt_zero _), trivial, (fun _ h => by cases h),
    DmaBufFormatSet.clean_empty, fun _ => rfl, fun _ => rfl, hproxy⟩

/-!
# The lazy reset

With no dangling tranche array, the reset frees the working set first, then each committed set
and the array.  At the first tranche event of an advertisement it keeps a sound feedback sound.
-/

theorem resetTranches_eq {fb : DmaBufFeedback} (hnd : fb.tranches.NotDangling)
    (hcl : ∀ t ∈ fb.tranches.elems, t.formatSet.Clean) :
    wlEglFeedbackResetTranches fb =
      if fb.tranches.count = 0 then .ok fb
      else (wlEglDestroyFormatSet fb.tmpTranche.formatSet).map fun set =>
        { fb with tmpTranche := { fb.tmpTranche with formatSet := set }, tranches := .null } := by
  have hloop : fb.tranches.forEach
      (fun t => wlEglDestroyFormatSet t.formatSet >>= fun _ => pure ()) = .ok () :=
    CArray.forEach_eq_ok hnd fun t ht => destroyFormatSet_discard_of_clean (hcl t ht)
  have hfree : (fb.tranches.free >>= fun _ => pure ()) = (.ok () : Except Fault Unit) :=
    free_discard_of_notDangling hnd
  unfold wlEglFeedbackResetTranches
  split_ifs
  · rfl
  · cases wlEglDestroyFormatSet fb.tmpTranche.formatSet with
    | error e => rfl
    | ok set =>
        obtain ⟨a, ha, -⟩ := except_bind_eq_ok.1 hfree
        simp only [except_ok_bind, hloop, ha]
        rfl

theorem checkResetTranches_sound {p : Proc} {pending : Bool} {fb : DmaBufFeedback}
    (h : FeedbackSound p pending fb) :
    ∃ tr, dmabufFeedbackCheckResetTranches fb =
        .ok { fb with feedbackDone := false, tranches := tr } ∧
      tr.NotDangling ∧ ∀ t ∈ tr.elems, t.formatSet.Clean := by
  cases hd : fb.feedbackDone
  · refine ⟨fb.tranches, ?_, h.tranches, h.committed⟩
    rw [checkResetTranches_of_not_done hd]
    cases fb
    simp_all
  · have hempty := h.done hd
    rw [dmabufFeedbackCheckResetTranches, if_pos hd,
      @resetTranches_eq { fb with feedbackDone := false } h.tranches h.committed]
    split_ifs with hc
    · exact ⟨fb.tranches, rfl, h.tranches, h.committed⟩
    · refine ⟨.null, ?_, trivial, fun _ ht => by cases ht⟩
      simp only [hempty, wlEglDestroyFormatSet_empty, Except.map]
      rw [← hempty]

/-!
# One event of any kind

On a readable table the loop of `tranche_formats` keeps a clean set clean, whatever the
`realloc`s answer.
-/

theorem addTrancheFormats_clean {env : FeedbackEnv} {p : Proc} {t : FormatTable}
    (ht : TableReadable p t) : ∀ (indices : List Nat) (k : Nat) {set : DmaBufFormatSet},
      set.Clean → ∃ set', addTrancheFormats env p t k indices set = .ok set' ∧ set'.Clean
  | [], _, set, h => ⟨set, rfl, h⟩
  | i :: rest, k, set, h => by
      by_cases hi : t.len ≤ i
      · obtain ⟨set', hrun, h'⟩ := @addTrancheFormats_clean env p t ht rest (k + 1) set h
        exact ⟨set', by rw [addTrancheFormats, if_pos hi]; exact hrun, h'⟩
      · obtain ⟨e, he⟩ := ht i (by omega)
        obtain ⟨set₁, hadd, h₁, -⟩ :=
          wlEglFormatSetAdd_spec h e.format e.modifier (env.formats k) (env.modifiers k)
        obtain ⟨set', hrun, h'⟩ := @addTrancheFormats_clean env p t ht rest (k + 1) set₁ h₁
        exact ⟨set', by simp only [addTrancheFormats, hi, ↓reduceIte, he, hadd, except_ok_bind,
          hrun], h'⟩

/-- Every event whose payload is acceptable, other than a `done` while formats are pending,
keeps the feedback sound and its proxy. -/
theorem FeedbackSound.step {p : Proc} {pending : Bool} {fb : DmaBufFeedback}
    (h : FeedbackSound p pending fb) {env : FeedbackEnv} {e : FeedbackEvent}
    (he : e.Acceptable env) (hdone : (e.isDone && pending) = false) :
    ∃ p' fb', dmabufFeedbackListener env p fb e = .ok (p', fb') ∧
      FeedbackSound p' (e.pendingAfter pending) fb' ∧ fb'.wlDmaBufFeedback = fb.wlDmaBufFeedback := by
  cases e with
  | done =>
      have hidle : pending = false := by simpa [FeedbackEvent.isDone] using hdone
      exact ⟨p, _, rfl, ⟨h.table, h.tranches, h.committed, h.tmp, h.idle, fun _ => h.idle hidle, h.proxy⟩, rfl⟩
  | formatTable size file =>
      have hsize : ¬ size % sizeofFormatTableEntry ≠ 0 := not_not.2 he
      simp only [dmabufFeedbackListener, dmabufFeedbackFormatTable, hsize, ↓reduceIte]
      rcases (if size = 0 then none else env.mmap) with _ | a
      · exact ⟨p, _, rfl, ⟨fun _ hi => absurd hi (Nat.not_lt_zero _), h.tranches, h.committed,
          h.tmp, h.idle, h.done, h.proxy⟩, rfl⟩
      · exact ⟨_, _, rfl, ⟨fun i _ => ⟨file i, by simp [formatTableEntryAt]⟩, h.tranches,
          h.committed, h.tmp, h.idle, h.done, h.proxy⟩, rfl⟩
  | mainDevice dev =>
      obtain ⟨tr, hreset, hnd, hcl⟩ := checkResetTranches_sound h
      exact ⟨p, { fb with feedbackDone := false, tranches := tr, mainDev := leBytes dev },
        by simp [dmabufFeedbackListener, dmabufFeedbackMainDevice, hreset,
          devOfArray_of_length he, Except.map], ⟨h.table, hnd, hcl, h.tmp, h.idle, nofun, h.proxy⟩, rfl⟩
  | trancheTargetDevice dev =>
      obtain ⟨tr, hreset, hnd, hcl⟩ := checkResetTranches_sound h
      exact ⟨p,
        { fb with
          feedbackDone := false
          tranches := tr
          tmpTranche := { fb.tmpTranche with drmDev := leBytes dev } },
        by simp [dmabufFeedbackListener, dmabufFeedbackTrancheTargetDevice, hreset,
          devOfArray_of_length he, Except.map], ⟨h.table, hnd, hcl, h.tmp, h.idle, nofun, h.proxy⟩, rfl⟩
  | trancheFlags flags =>
      obtain ⟨tr, hreset, hnd, hcl⟩ := checkResetTranches_sound h
      by_cases hfl : flags &&& trancheFlagsScanout ≠ 0
      · exact ⟨p,
          { fb with
            feedbackDone := false
            tranches := tr
            tmpTranche := { fb.tmpTranche with supportsScanout := true } },
          by simp [dmabufFeedbackListener, dmabufFeedbackTrancheFlags, hreset, hfl, Except.map],
          ⟨h.table, hnd, hcl, h.tmp, h.idle, nofun, h.proxy⟩, rfl⟩
      · exact ⟨p, { fb with feedbackDone := false, tranches := tr },
          by simp [dmabufFeedbackListener, dmabufFeedbackTrancheFlags, hreset, hfl, Except.map],
          ⟨h.table, hnd, hcl, h.tmp, h.idle, nofun, h.proxy⟩, rfl⟩
  | trancheFormats indices =>
      have he : indices.length % 2 = 0 := he
      obtain ⟨tr, hreset, hnd, hcl⟩ := checkResetTranches_sound h
      obtain ⟨set, hadd, hset⟩ :=
        @addTrancheFormats_clean env p fb.formatTable h.table (wlArrayU16 indices) 0 _ h.tmp
      exact ⟨p,
        { fb with
          feedbackDone := false
          tranches := tr
          tmpTranche := { fb.tmpTranche with formatSet := set } },
        by simp [dmabufFeedbackListener, dmabufFeedbackTrancheFormats, hreset,
          he, hadd, Except.map],
        ⟨h.table, hnd, hcl, hset, nofun, nofun, h.proxy⟩, rfl⟩
  | trancheDone =>
      refine ⟨p,
        { fb with
          tranches := .live (fb.tranches.elems ++ [fb.tmpTranche])
          tmpTranche := .zero },
        ?_, ⟨h.table, trivial, fun t ht => ?_, DmaBufFormatSet.clean_empty,
          fun _ => rfl, fun _ => rfl, h.proxy⟩, rfl⟩
      · have he : env.tranches = true := he
        simp [dmabufFeedbackListener, dmabufFeedbackTrancheDone, he,
          CArray.append_of_notDangling h.tranches, Except.map]
      · rcases List.mem_append.1 ht with ht | ht
        · exact h.committed t ht
        · rw [List.mem_singleton.1 ht]
          exact h.tmp

/-!
# What a run does to the process

A handler that returns has only added the mapping of its table to the process, and a run that
returns has only added the mappings of its tables, newest first: it has neither unmapped
anything nor touched a proxy.
-/

def FeedbackEvent.newMapping (env : FeedbackEnv) : FeedbackEvent → Option Nat
  | .formatTable size _ => if size = 0 then none else env.mmap
  | _ => none

def newMappings (evs : List (FeedbackEvent × FeedbackEnv)) : List Nat :=
  evs.filterMap fun x => x.1.newMapping x.2

theorem dmabufFeedbackListener_proc {env : FeedbackEnv} {p p' : Proc} {fb fb' : DmaBufFeedback}
    {e : FeedbackEvent} (h : dmabufFeedbackListener env p fb e = .ok (p', fb')) :
    p' = { p with mapped := (e.newMapping env).toList ++ p.mapped } := by
  have hkeep : ∀ {x : Except Fault DmaBufFeedback}, x.map (p, ·) = .ok (p', fb') → p' = p := by
    intro x hx
    obtain ⟨_, -, hx⟩ := except_map_eq_ok.1 hx
    cases hx
    rfl
  cases e with
  | done => cases h; rfl
  | formatTable size file =>
      simp only [dmabufFeedbackListener, dmabufFeedbackFormatTable] at h
      split at h
      · cases h
      · simp only [FeedbackEvent.newMapping]
        split at h <;> rename_i hm <;> cases h <;> rw [hm] <;> rfl
  | mainDevice => exact hkeep h
  | trancheDone => exact hkeep h
  | trancheTargetDevice => exact hkeep h
  | trancheFormats => exact hkeep h
  | trancheFlags => exact hkeep h

theorem runFeedback_proc : ∀ {evs : List (FeedbackEvent × FeedbackEnv)} {p p' : Proc}
    {fb fb' : DmaBufFeedback}, runFeedback p fb evs = .ok (p', fb') →
    p' = { p with mapped := (newMappings evs).reverse ++ p.mapped }
  | [], _, _, _, _, h => by cases h; rfl
  | (e, env) :: rest, p, _, fb, _, h => by
      obtain ⟨⟨p₁, fb₁⟩, hstep, hrun⟩ := except_bind_eq_ok.1 h
      rw [runFeedback_proc hrun, dmabufFeedbackListener_proc hstep]
      cases hm : e.newMapping env <;> simp [newMappings, hm]

/-!
# Whole runs and the end of the feedback

On sound feedback `wlEglDestroyFeedback` never faults: the reset frees clean sets and an array
that is not dangling, and the proxy is live or `NULL`.  The safety holds also for runs no
compositor following the protocol sends.
-/

/-- Sound feedback stays sound over every run of acceptable events that keeps the rule for
the formats: no handler faults, and the proxy is kept. -/
theorem FeedbackSound.run : ∀ (evs : List (FeedbackEvent × FeedbackEnv)) {p : Proc}
    {pending : Bool} {fb : DmaBufFeedback}, FeedbackSound p pending fb →
    (∀ x ∈ evs, x.1.Acceptable x.2) → formatsClosed pending (evs.map Prod.fst) = true →
    ∃ p' pending' fb', runFeedback p fb evs = .ok (p', fb') ∧ FeedbackSound p' pending' fb' ∧
      fb'.wlDmaBufFeedback = fb.wlDmaBufFeedback
  | [], p, pending, fb, h, _, _ => ⟨p, pending, fb, rfl, h, rfl⟩
  | (e, env) :: rest, _, _, _, h, hacc, hrule => by
      simp only [List.map_cons, formatsClosed, Bool.and_eq_true, Bool.not_eq_true'] at hrule
      obtain ⟨p₁, fb₁, hstep, h₁, hproxy₁⟩ := h.step (hacc _ (List.mem_cons_self _ _)) hrule.1
      obtain ⟨p', pending', fb', hrun, h', hproxy'⟩ :=
        FeedbackSound.run rest h₁ (fun x hx => hacc x (List.mem_cons_of_mem _ hx)) hrule.2
      exact ⟨p', pending', fb', by rw [runFeedback_cons, hstep]; exact hrun, h',
        hproxy'.trans hproxy₁⟩

theorem destroyFormatSet_ok_of_clean {set : DmaBufFormatSet} (h : set.Clean) :
    ∃ set', wlEglDestroyFormatSet set = .ok set' := by
  rw [wlEglDestroyFormatSet_of_clean h]
  obtain ⟨formats⟩ := set
  cases formats with
  | null => exact ⟨_, rfl⟩
  | live xs => exact ⟨_, rfl⟩
  | dangling n => exact h.1.elim

theorem FeedbackSound.destroy {p : Proc} {pending : Bool} {fb : DmaBufFeedback}
    (h : FeedbackSound p pending fb) :
    ∃ p' fb', wlEglDestroyFeedback p fb = .ok (p', fb') ∧
      p'.proxies = if fb.wlDmaBufFeedback = 0 then p.proxies
        else p.proxies.erase fb.wlDmaBufFeedback := by
  obtain ⟨fb₀, hreset, hproxy⟩ : ∃ fb₀, wlEglFeedbackResetTranches fb = .ok fb₀ ∧
      fb₀.wlDmaBufFeedback = fb.wlDmaBufFeedback := by
    rw [resetTranches_eq h.tranches h.committed]
    split_ifs
    · exact ⟨fb, rfl, rfl⟩
    · obtain ⟨set, hset⟩ := destroyFormatSet_ok_of_clean h.tmp
      exact ⟨_, by rw [hset]; rfl, by rfl⟩
  simp only [wlEglDestroyFeedback, hreset, except_ok_bind, hproxy]
  split_ifs with h0
  · exact ⟨_, _, rfl, rfl⟩
  · have hlive : fb.wlDmaBufFeedback ∈ p.proxies := h.proxy.resolve_left h0
    exact ⟨{ p.munmap fb₀.formatTable.entry.addr (sizeofFormatTableEntry * fb₀.formatTable.len) with
      proxies := p.proxies.erase fb.wlDmaBufFeedback }, fb₀,
      by simp [Proc.destroyProxy, Proc.munmap, hlive], rfl⟩

/-- The default feedback of a display, from the `calloc`ed record with the proxy that
`get_default_feedback` returned, through any run of acceptable events that keeps the rule
for the formats, to `wlEglDestroyFeedback`: nothing faults, and the proxy is destroyed. -/
theorem defaultFeedback_life_safe {p : Proc} {proxy : Nat} (hproxy : proxy = 0 ∨ proxy ∈ p.proxies)
    (evs : List (FeedbackEvent × FeedbackEnv)) (hacc : ∀ x ∈ evs, x.1.Acceptable x.2)
    (hrule : formatsClosed false (evs.map Prod.fst) = true) :
    ∃ p' fb', ((runFeedback p { DmaBufFeedback.zero with wlDmaBufFeedback := proxy } evs).bind
        fun pf => wlEglDestroyFeedback pf.1 pf.2) = .ok (p', fb') ∧
      p'.proxies = if proxy = 0 then p.proxies else p.proxies.erase proxy := by
  obtain ⟨p₁, _, fb₁, hrun, h₁, hproxy₁⟩ := (feedbackSound_zero hproxy).run evs hacc hrule
  obtain ⟨p', fb', hdes, hproxies⟩ := h₁.destroy
  have hkeep : p₁.proxies = p.proxies := by rw [runFeedback_proc hrun]
  refine ⟨p', fb', by rw [hrun]; exact hdes, ?_⟩
  rw [hproxies, hkeep, hproxy₁]

theorem disorderedFeedback_life_safe :
    (∀ x ∈ [(.trancheFlags trancheFlagsScanout, .succeed none), (.done, .succeed none),
        (.formatTable 16 tableFile, .succeed (some 1)), (.trancheFormats [0, 0], .succeed none),
        (.trancheDone, .succeed none), (.done, .succeed none), (.done, .succeed none)],
        FeedbackEvent.Acceptable x.2 x.1) ∧
    ∃ p' fb', ((runFeedback ⟨[], [], [5]⟩ { DmaBufFeedback.zero with wlDmaBufFeedback := 5 }
        [(.trancheFlags trancheFlagsScanout, .succeed none), (.done, .succeed none),
          (.formatTable 16 tableFile, .succeed (some 1)), (.trancheFormats [0, 0], .succeed none),
          (.trancheDone, .succeed none), (.done, .succeed none), (.done, .succeed none)]).bind
        fun pf => wlEglDestroyFeedback pf.1 pf.2) = .ok (p', fb') ∧
      p'.proxies = if 5 = 0 then [5] else [5].erase 5 :=
  ⟨by decide, defaultFeedback_life_safe (.inr (by decide)) _ (by decide) rfl⟩

/-!
# The rule for the formats cannot be dropped

On a released working set the loop of `tranche_formats` faults at the first index that names an
entry of a readable table.
-/

theorem wlEglFormatSetAdd_dangling (n : Nat) (format : UInt32) (modifier : UInt64)
    (okFormats okModifiers : Bool) :
    wlEglFormatSetAdd ⟨.dangling n⟩ format modifier okFormats okModifiers = .error .useAfterFree := by
  cases n <;> rfl

theorem addTrancheFormats_dangling {env : FeedbackEnv} {p : Proc} {t : FormatTable}
    (ht : TableReadable p t) (n : Nat) : ∀ (indices : List Nat) (k : Nat),
      (∃ i ∈ indices, i < t.len) →
        addTrancheFormats env p t k indices ⟨.dangling n⟩ = .error .useAfterFree
  | [], _, ⟨_, hi, _⟩ => absurd hi (List.not_mem_nil _)
  | i :: rest, k, ⟨j, hj, hlt⟩ => by
      by_cases hi : t.len ≤ i
      · rw [addTrancheFormats, if_pos hi]
        exact @addTrancheFormats_dangling env p t ht n rest (k + 1)
          ⟨j, (List.mem_cons.1 hj).resolve_left (by omega), hlt⟩
      · obtain ⟨e, he⟩ := ht i (by omega)
        simp only [addTrancheFormats, hi, ↓reduceIte, he, except_ok_bind,
          wlEglFormatSetAdd_dangling, except_error_bind]

/-- A `done` while the working tranche holds formats, once a tranche has been committed,
breaks the feedback: the next `tranche_formats` resets the tranches, which frees the working
set without clearing it, and its first index into the table reads the released array. -/
theorem done_with_pending_formats_reads_freed_set {p : Proc} {pending : Bool}
    {fb : DmaBufFeedback} (h : FeedbackSound p pending fb)
    (hlive : fb.tmpTranche.formatSet.dmaBufFormats ≠ .null) (hcommitted : fb.tranches.count ≠ 0)
    (env env' : FeedbackEnv) {indices : List UInt8}
    (hin : ∃ i ∈ wlArrayU16 indices, i < fb.formatTable.len) :
    runFeedback p fb [(.done, env), (.trancheFormats indices, env')] = .error .useAfterFree := by
  obtain ⟨xs, hxs⟩ : ∃ xs, fb.tmpTranche.formatSet.dmaBufFormats = .live xs := by
    cases hf : fb.tmpTranche.formatSet.dmaBufFormats with
    | null => exact absurd hf hlive
    | live xs => exact ⟨xs, rfl⟩
    | dangling n => exact (hf ▸ h.tmp.1).elim
  have hfree : wlEglDestroyFormatSet fb.tmpTranche.formatSet = .ok ⟨.dangling xs.length⟩ := by
    rw [wlEglDestroyFormatSet_of_clean h.tmp, hxs]
    rfl
  have hreset : dmabufFeedbackCheckResetTranches (dmabufFeedbackDone fb) = .ok
      { dmabufFeedbackDone fb with
        feedbackDone := false
        tmpTranche := { fb.tmpTranche with formatSet := ⟨.dangling xs.length⟩ }
        tranches := .null } := by
    rw [dmabufFeedbackCheckResetTranches, if_pos (show (dmabufFeedbackDone fb).feedbackDone = true from rfl),
      @resetTranches_eq { dmabufFeedbackDone fb with feedbackDone := false } h.tranches h.committed]
    simp only [dmabufFeedbackDone, hcommitted, ↓reduceIte, hfree, Except.map]
  show ((dmabufFeedbackTrancheFormats env' p (dmabufFeedbackDone fb) indices).map (p, ·)).bind
    (fun pf => runFeedback pf.1 pf.2 []) = _
  have hloop : addTrancheFormats env' p (dmabufFeedbackDone fb).formatTable 0
      (wlArrayU16 indices) ⟨.dangling xs.length⟩ = .error .useAfterFree :=
    addTrancheFormats_dangling h.table _ _ 0 hin
  rw [dmabufFeedbackTrancheFormats, hreset]
  simp only [except_ok_bind]
  rw [hloop]
  rfl

theorem pendingFormats_sound :
    FeedbackSound ⟨[1], [], []⟩ true
      { DmaBufFeedback.zero with
        formatTable := ⟨.region 1 tableFile, 1⟩
        tmpTranche := ⟨0, false, ⟨.live [⟨0x34325258, .live [0]⟩]⟩⟩
        tranches := .live [.zero] } :=
  ⟨fun i _ => ⟨tableFile i, rfl⟩, trivial,
    (fun t ht => by
      rw [CArray.elems_live, List.mem_singleton] at ht
      exact ht ▸ DmaBufFormatSet.clean_empty),
    ⟨trivial, by simp⟩, nofun, nofun, .inl rfl⟩

theorem pendingFormats_done_faults :
    runFeedback ⟨[1], [], []⟩
        { DmaBufFeedback.zero with
          formatTable := ⟨.region 1 tableFile, 1⟩
          tmpTranche := ⟨0, false, ⟨.live [⟨0x34325258, .live [0]⟩]⟩⟩
          tranches := .live [.zero] }
        [(.done, .succeed none), (.trancheFormats [0, 0], .succeed none)] =
      .error .useAfterFree :=
  done_with_pending_formats_reads_freed_set pendingFormats_sound (by decide) (by decide) _ _
    ⟨0, by decide, by decide⟩

/-!
# Tables outlive the feedback

The reset keeps the table and the proxy, and `wlEglDestroyFeedback`, when it returns, has made
one `munmap`, of the current table, and destroyed the proxy unless it is `NULL`.
-/

theorem wlEglFeedbackResetTranches_keeps {fb fb₀ : DmaBufFeedback}
    (h : wlEglFeedbackResetTranches fb = .ok fb₀) :
    fb₀.formatTable = fb.formatTable ∧ fb₀.wlDmaBufFeedback = fb.wlDmaBufFeedback ∧
      fb₀.tranches.count = 0 := by
  unfold wlEglFeedbackResetTranches at h
  split_ifs at h with hc
  · cases h
    exact ⟨rfl, rfl, hc⟩
  · obtain ⟨_, -, h⟩ := except_bind_eq_ok.1 h
    obtain ⟨_, -, h⟩ := except_bind_eq_ok.1 h
    obtain ⟨_, -, h⟩ := except_bind_eq_ok.1 h
    cases h
    exact ⟨rfl, rfl, rfl⟩

theorem wlEglDestroyFeedback_spec {p p' : Proc} {fb fb' : DmaBufFeedback}
    (h : wlEglDestroyFeedback p fb = .ok (p', fb')) :
    p'.mapped = (p.munmap fb.formatTable.entry.addr
        (sizeofFormatTableEntry * fb.formatTable.len)).mapped ∧
      p'.munmaps = p.munmaps ++
        [(fb.formatTable.entry.addr, sizeofFormatTableEntry * fb.formatTable.len)] ∧
      p'.proxies = (if fb.wlDmaBufFeedback = 0 then p.proxies
        else p.proxies.erase fb.wlDmaBufFeedback) ∧
      fb'.formatTable = fb.formatTable ∧ fb'.wlDmaBufFeedback = fb.wlDmaBufFeedback ∧
      fb'.tranches.count = 0 := by
  obtain ⟨fb₀, hreset, h⟩ := except_bind_eq_ok.1 h
  obtain ⟨htable, hproxy, hcount⟩ := wlEglFeedbackResetTranches_keeps hreset
  rw [← htable, ← hproxy]
  split_ifs at h with h0
  · cases h
    exact ⟨rfl, rfl, by rw [if_pos h0]; rfl, rfl, rfl, hcount⟩
  · obtain ⟨_, hdestroy, h⟩ := except_bind_eq_ok.1 h
    cases h
    unfold Proc.destroyProxy at hdestroy
    split_ifs at hdestroy
    cases hdestroy
    exact ⟨rfl, rfl, by rw [if_neg h0]; rfl, rfl, rfl, hcount⟩

/-- Over the feedback's whole life, from any record through any run to
`wlEglDestroyFeedback`, the only `munmap` is the one of the table current at the end:
every other table mapped on the way stays mapped. -/
theorem feedback_tables_outlive_destroy {p p₁ p₂ : Proc} {fb fb₁ fb₂ : DmaBufFeedback}
    {evs : List (FeedbackEvent × FeedbackEnv)} (hrun : runFeedback p fb evs = .ok (p₁, fb₁))
    (hdes : wlEglDestroyFeedback p₁ fb₁ = .ok (p₂, fb₂)) :
    p₂.munmaps = p.munmaps ++
        [(fb₁.formatTable.entry.addr, sizeofFormatTableEntry * fb₁.formatTable.len)] ∧
      ∀ a ∈ newMappings evs, fb₁.formatTable.entry.addr ≠ .region a → a ∈ p₂.mapped := by
  have hp₁ := runFeedback_proc hrun
  obtain ⟨hmapped, hmunmaps, -⟩ := wlEglDestroyFeedback_spec hdes
  refine ⟨by rw [hmunmaps, hp₁], fun a ha hne => ?_⟩
  have hmem : a ∈ (newMappings evs).reverse ++ p.mapped :=
    List.mem_append_left _ (List.mem_reverse.2 ha)
  rw [hmapped, hp₁]
  simp only [Proc.munmap]
  split
  · rename_i b hb
    exact (List.mem_erase_of_ne fun (hab : a = b) => hne (hab ▸ hb)).2 hmem
  · exact hmem

theorem replacedTable_outlives_destroy :
    runFeedback .empty .zero
        [(.formatTable 16 tableFile, .succeed (some 1)),
          (.formatTable 16 tableFile, .succeed (some 2))] =
      .ok (⟨[2, 1], [], []⟩, { DmaBufFeedback.zero with formatTable := ⟨.region 2 tableFile, 1⟩ }) ∧
    wlEglDestroyFeedback ⟨[2, 1], [], []⟩
        { DmaBufFeedback.zero with formatTable := ⟨.region 2 tableFile, 1⟩ } =
      .ok (⟨[1], [(.region 2, 16)], []⟩,
        { DmaBufFeedback.zero with formatTable := ⟨.region 2 tableFile, 1⟩ }) ∧
    1 ∈ (⟨[1], [(.region 2, 16)], []⟩ : Proc).mapped :=
  have hrun : runFeedback .empty .zero
      [(.formatTable 16 tableFile, .succeed (some 1)),
        (.formatTable 16 tableFile, .succeed (some 2))] =
      .ok (⟨[2, 1], [], []⟩, { DmaBufFeedback.zero with formatTable := ⟨.region 2 tableFile, 1⟩ }) :=
    rfl
  have hdes : wlEglDestroyFeedback ⟨[2, 1], [], []⟩
      { DmaBufFeedback.zero with formatTable := ⟨.region 2 tableFile, 1⟩ } =
      .ok (⟨[1], [(.region 2, 16)], []⟩,
        { DmaBufFeedback.zero with formatTable := ⟨.region 2 tableFile, 1⟩ }) :=
    rfl
  ⟨hrun, hdes, (feedback_tables_outlive_destroy hrun hdes).2 1 (by decide) (by decide)⟩

end EglWayland
