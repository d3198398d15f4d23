import EglWayland.FormatSet

/-!
# The dma-buf feedback state machine

`WlEglDmaBufFeedback` is filled by the seven events of `zwp_linux_dmabuf_feedback_v1`.
Tranche fields are buffered in `tmpTranche` until `tranche_done` copies it into
`tranches`; `done` marks the advertisement complete, and the first tranche event of the
next one clears the tranches (`dmabuf_feedback_check_reset_tranches`).  The format table
is a read-only mapping of a file the compositor passes.

Each handler is a function of the feedback record, of the process resources it touches
(`Proc`) and of the answers the process gives to its allocation requests (`FeedbackEnv`);
`dmabufFeedbackListener` dispatches an event to its handler as the listener table does, and
`runFeedback` delivers events one after another.  `sizeofDevT` is `sizeof(dev_t)` on Linux,
`sizeofFormatTableEntry` the size the `_Static_assert` fixes, and `trancheFlagsScanout` the
protocol's scanout bit.
-/

namespace EglWayland

def sizeofDevT : Nat := 8

def sizeofFormatTableEntry : Nat := 16

def trancheFlagsScanout : UInt32 := 1

structure FormatTableEntry where
  format : UInt32
  modifier : UInt64
  deriving DecidableEq, Repr

/-- `formatTable.entry`: `NULL` before any table, `MAP_FAILED` after a failed `mmap`, or
a mapping at `addr` of the compositor's file, whose `i`-th 16-byte slot holds `file i`. -/
inductive TableMapping where
  | null
  | mapFailed
  | region (addr : Nat) (file : Nat → FormatTableEntry)

def TableMapping.addr : TableMapping → MapAddr
  | .null => .null
  | .mapFailed => .mapFailed
  | .region a _ => .region a

structure FormatTable where
  entry : TableMapping
  len : Nat

structure DmaBufTranche where
  drmDev : Nat
  supportsScanout : Bool
  formatSet : DmaBufFormatSet
  deriving DecidableEq, Repr

structure DmaBufFeedback where
  -- The `zwp_linux_dmabuf_feedback_v1` proxy, `0` for `NULL`.
  wlDmaBufFeedback : Nat
  formatTable : FormatTable
  mainDev : Nat
  tmpTranche : DmaBufTranche
  -- `numTranches` and `tranches`.
  tranches : CArray DmaBufTranche
  feedbackDone : Bool
  unprocessedFeedback : Bool

def DmaBufTranche.zero : DmaBufTranche := ⟨0, false, .empty⟩

def DmaBufFeedback.zero : DmaBufFeedback :=
  ⟨0, ⟨.null, 0⟩, 0, .zero, .null, false, false⟩

/-!
# Event payloads
-/

def leBytes : List UInt8 → Nat
  | [] => 0
  | b :: bs => b.toNat + 256 * leBytes bs

def devOfArray (dev : List UInt8) : Except Fault Nat :=
  if dev.length = sizeofDevT then .ok (leBytes dev) else .error .assertFailed

/-- The whole 16-bit indices of a `wl_array`, least significant byte first, in the order
`wl_array_for_each` steps through them. -/
def wlArrayU16 : List UInt8 → List Nat
  | b0 :: b1 :: rest => (b0.toNat + 256 * b1.toNat) :: wlArrayU16 rest
  | _ => []

/-!
# Handlers
-/

def wlEglFeedbackResetTranches (fb : DmaBufFeedback) : Except Fault DmaBufFeedback :=
  if fb.tranches.count = 0 then .ok fb
  else do
    let tmpSet ← wlEglDestroyFormatSet fb.tmpTranche.formatSet
    fb.tranches.forEach fun t => wlEglDestroyFormatSet t.formatSet >>= fun _ => pure ()
    let _ ← fb.tranches.free
    pure { fb with tmpTranche := { fb.tmpTranche with formatSet := tmpSet }, tranches := .null }

def dmabufFeedbackCheckResetTranches (fb : DmaBufFeedback) : Except Fault DmaBufFeedback :=
  if fb.feedbackDone then wlEglFeedbackResetTranches { fb with feedbackDone := false }
  else .ok fb

def dmabufFeedbackMainDevice (fb : DmaBufFeedback) (dev : List UInt8) :
    Except Fault DmaBufFeedback := do
  let fb ← dmabufFeedbackCheckResetTranches fb
  let devid ← devOfArray dev
  pure { fb with mainDev := devid }

def dmabufFeedbackTrancheTargetDevice (fb : DmaBufFeedback) (dev : List UInt8) :
    Except Fault DmaBufFeedback := do
  let fb ← dmabufFeedbackCheckResetTranches fb
  let devid ← devOfArray dev
  pure { fb with tmpTranche := { fb.tmpTranche with drmDev := devid } }

def dmabufFeedbackTrancheFlags (fb : DmaBufFeedback) (flags : UInt32) :
    Except Fault DmaBufFeedback := do
  let fb ← dmabufFeedbackCheckResetTranches fb
  if flags &&& trancheFlagsScanout ≠ 0 then
    pure { fb with tmpTranche := { fb.tmpTranche with supportsScanout := true } }
  else pure fb

/-- The answers to the allocation requests of one handler: the `realloc`s of the format
array and of the modifier array made for the `k`-th index of a `tranche_formats` array,
the `realloc` of the tranche array, and the address `mmap` returns (`none` for
`MAP_FAILED`). -/
structure FeedbackEnv where
  formats : Nat → Bool
  modifiers : Nat → Bool
  tranches : Bool
  mmap : Option Nat

def FeedbackEnv.succeed (mmap : Option Nat) : FeedbackEnv :=
  ⟨fun _ => true, fun _ => true, true, mmap⟩

def formatTableEntryAt (p : Proc) (table : FormatTable) (index : Nat) :
    Except Fault FormatTableEntry :=
  match table.entry with
  | .region a file => if a ∈ p.mapped then .ok (file index) else .error .useAfterFree
  | .null => .error .nullDeref
  | .mapFailed => .error .useAfterFree

/-- The loop of `dmabuf_feedback_tranche_formats` from the `k`-th index on: an index
past the table is skipped, any other adds its table entry to the set. -/
def addTrancheFormats (env : FeedbackEnv) (p : Proc) (table : FormatTable) :
    Nat → List Nat → DmaBufFormatSet → Except Fault DmaBufFormatSet
  | _, [], set => .ok set
  | k, index :: rest, set =>
      if table.len ≤ index then addTrancheFormats env p table (k + 1) rest set
      else do
        let entry ← formatTableEntryAt p table index
        let set ← wlEglFormatSetAdd set entry.format entry.modifier (env.formats k)
          (env.modifiers k)
        addTrancheFormats env p table (k + 1) rest set

/-- `wl_array_for_each` steps a `uint16_t` pointer while it is below `data + size`: after the
whole indices, an odd size takes one more step, whose read ends a byte past the array. -/
def dmabufFeedbackTrancheFormats (env : FeedbackEnv) (p : Proc) (fb : DmaBufFeedback)
    (indices : List UInt8) : Except Fault DmaBufFeedback := do
  let fb ← dmabufFeedbackCheckResetTranches fb
  let set ← addTrancheFormats env p fb.formatTable 0 (wlArrayU16 indices) fb.tmpTranche.formatSet
  if indices.length % 2 = 1 then .error .outOfBounds
  else pure { fb with tmpTranche := { fb.tmpTranche with formatSet := set } }

def dmabufFeedbackTrancheDone (env : FeedbackEnv) (fb : DmaBufFeedback) :
    Except Fault DmaBufFeedback := do
  match ← fb.tranches.append fb.tmpTranche env.tranches with
  | none => .error .assertFailed
  | some tranches => pure { fb with tranches := tranches, tmpTranche := .zero }

def dmabufFeedbackDone (fb : DmaBufFeedback) : DmaBufFeedback :=
  { fb with feedbackDone := true, unprocessedFeedback := true }

/-- `mmap` of a zero-length region always fails. -/
def dmabufFeedbackFormatTable (env : FeedbackEnv) (p : Proc) (fb : DmaBufFeedback)
    (size : Nat) (file : Nat → FormatTableEntry) : Except Fault (Proc × DmaBufFeedback) :=
  if size % sizeofFormatTableEntry ≠ 0 then .error .assertFailed
  else
    match if size = 0 then none else env.mmap with
    | none => .ok (p, { fb with formatTable := ⟨.mapFailed, 0⟩ })
    | some a =>
        .ok ({ p with mapped := a :: p.mapped },
          { fb with formatTable := ⟨.region a file, size / sizeofFormatTableEntry⟩ })

def wlEglDestroyFeedback (p : Proc) (fb : DmaBufFeedback) :
    Except Fault (Proc × DmaBufFeedback) := do
  let fb ← wlEglFeedbackResetTranches fb
  let p := p.munmap fb.formatTable.entry.addr (sizeofFormatTableEntry * fb.formatTable.len)
  if fb.wlDmaBufFeedback = 0 then pure (p, fb)
  else pure (← p.destroyProxy fb.wlDmaBufFeedback, fb)

/-!
# Events and runs
-/

inductive FeedbackEvent where
  | done
  | formatTable (size : Nat) (file : Nat → FormatTableEntry)
  | mainDevice (dev : List UInt8)
  | trancheDone
  | trancheTargetDevice (dev : List UInt8)
  | trancheFormats (indices : List UInt8)
  | trancheFlags (flags : UInt32)

def dmabufFeedbackListener (env : FeedbackEnv) (p : Proc) (fb : DmaBufFeedback) :
    FeedbackEvent → Except Fault (Proc × DmaBufFeedback)
  | .done => .ok (p, dmabufFeedbackDone fb)
  | .formatTable size file => dmabufFeedbackFormatTable env p fb size file
  | .mainDevice dev => (dmabufFeedbackMainDevice fb dev).map (p, ·)
  | .trancheDone => (dmabufFeedbackTrancheDone env fb).map (p, ·)
  | .trancheTargetDevice dev => (dmabufFeedbackTrancheTargetDevice fb dev).map (p, ·)
  | .trancheFormats indices => (dmabufFeedbackTrancheFormats env p fb indices).map (p, ·)
  | .trancheFlags flags => (dmabufFeedbackTrancheFlags fb flags).map (p, ·)

def runFeedback (p : Proc) (fb : DmaBufFeedback) :
    List (FeedbackEvent × FeedbackEnv) → Except Fault (Proc × DmaBufFeedback)
  | [] => .ok (p, fb)
  | (ev, env) :: rest => do
      let (p, fb) ← dmabufFeedbackListener env p fb ev
      runFeedback p fb rest

@[simp] theorem runFeedback_nil (p : Proc) (fb : DmaBufFeedback) :
    runFeedback p fb [] = .ok (p, fb) := rfl

theorem runFeedback_cons (p : Proc) (fb : DmaBufFeedback) (ev : FeedbackEvent)
    (env : FeedbackEnv) (rest : List (FeedbackEvent × FeedbackEnv)) :
    runFeedback p fb ((ev, env) :: rest) =
      (dmabufFeedbackListener env p fb ev).bind fun pf => runFeedback pf.1 pf.2 rest := rfl

theorem runFeedback_append (p : Proc) (fb : DmaBufFeedback)
    (xs ys : List (FeedbackEvent × FeedbackEnv)) :
    runFeedback p fb (xs ++ ys) =
      (runFeedback p fb xs).bind fun pf => runFeedback pf.1 pf.2 ys := by
  induction xs generalizing p fb with
  | nil => rfl
  | cons e xs ih =>
      obtain ⟨ev, env⟩ := e
      simp only [List.cons_append, runFeedback_cons]
      cases dmabufFeedbackListener env p fb ev with
      | error e => rfl
      | ok pf => exact ih pf.1 pf.2

/-!
# Runs the lazy reset gets wrong

`wlEglFeedbackResetTranches` returns at once when no tranche was committed, and
otherwise frees the working tranche's format set without zeroing it.  Tranche events
after the last `tranche_done` of a cycle (an untrusted compositor may send them) therefore
leave state behind that the next cycle inherits.  A scanout flag sent after the last
`tranche_done` survives the reset of the next cycle; formats sent after it leave the working
tranche's format array freed with its count at `1`; and a second `format_table` replaces the
first mapping without unmapping it.
-/

def Proc.empty : Proc := ⟨[], [], []⟩

def devZero : List UInt8 := List.replicate sizeofDevT 0

theorem checkResetTranches_keeps_stale_scanout :
    (runFeedback .empty .zero
        [(.trancheFlags trancheFlagsScanout, .succeed none), (.done, .succeed none),
          (.mainDevice devZero, .succeed none)]).map (·.2.tmpTranche) =
      .ok ⟨0, true, .empty⟩ ∧
    (runFeedback .empty .zero
        [(.trancheFlags trancheFlagsScanout, .succeed none), (.done, .succeed none),
          (.mainDevice devZero, .succeed none), (.trancheDone, .succeed none)]).map
        (·.2.tranches) =
      .ok (.live [⟨0, true, .empty⟩]) :=
  ⟨rfl, rfl⟩

def tableFile : Nat → FormatTableEntry := fun _ => ⟨0x34325258, 0⟩

theorem resetTranches_leaves_freed_working_set :
    (runFeedback .empty .zero
        [(.formatTable 16 tableFile, .succeed (some 1)), (.trancheFormats [0, 0], .succeed none),
          (.trancheDone, .succeed none), (.trancheFormats [0, 0], .succeed none),
          (.done, .succeed none), (.mainDevice devZero, .succeed none)]).map
        (·.2.tmpTranche.formatSet) =
      .ok ⟨.dangling 1⟩ ∧
    (runFeedback .empty .zero
        [(.formatTable 16 tableFile, .succeed (some 1)), (.trancheFormats [0, 0], .succeed none),
          (.trancheDone, .succeed none), (.trancheFormats [0, 0], .succeed none),
          (.done, .succeed none), (.mainDevice devZero, .succeed none),
          (.trancheFormats [0, 0], .succeed none)]).map (·.2) =
      .error .useAfterFree :=
  ⟨rfl, rfl⟩

theorem formatTable_leaks_previous_mapping :
    ((runFeedback .empty .zero
        [(.formatTable 16 tableFile, .succeed (some 1)),
          (.formatTable 16 tableFile, .succeed (some 2))]).bind
        fun pf => wlEglDestroyFeedback pf.1 pf.2).map (·.1) =
      .ok ⟨[1], [(.region 2, 16)], []⟩ :=
  rfl

/-!
# Index arrays of odd size

`indices->size` is chosen by the compositor.  On an odd size the handler's
`wl_array_for_each` takes a last step whose 16-bit read ends one byte past the array, once
the whole indices before it have been added.
-/

/-- The table lookups stay inside the mapping: the loop skips indices from `formatTable.len`
on, and a `format_table` event sets `len` to a number of entries the mapped file holds. -/
theorem dmabufFeedbackFormatTable_len {env : FeedbackEnv} {p p' : Proc} {fb fb' : DmaBufFeedback}
    {size : Nat} {file : Nat → FormatTableEntry}
    (h : dmabufFeedbackFormatTable env p fb size file = .ok (p', fb')) :
    fb'.formatTable.len * sizeofFormatTableEntry ≤ size := by
  unfold dmabufFeedbackFormatTable at h
  split at h
  · cases h
  · split at h <;> cases h
    · simp
    · exact Nat.div_mul_le_self size sizeofFormatTableEntry

/-- A `tranche_formats` event whose array has an odd size makes the handler read past the
array once the lazy reset and the whole indices before the last byte are done. -/
theorem dmabufFeedbackTrancheFormats_odd_size (env : FeedbackEnv) (p : Proc)
    (fb : DmaBufFeedback) (indices : List UInt8) (hodd : indices.length % 2 = 1) :
    dmabufFeedbackTrancheFormats env p fb indices =
      (dmabufFeedbackCheckResetTranches fb).bind fun fb =>
        (addTrancheFormats env p fb.formatTable 0 (wlArrayU16 indices) fb.tmpTranche.formatSet).bind
          fun _ => .error .outOfBounds := by
  simp only [dmabufFeedbackTrancheFormats, hodd, ↓reduceIte]
  rfl

theorem oddIndices_read_past_array :
    ([0, 0, 0] : List UInt8).length % 2 = 1 ∧
      dmabufFeedbackTrancheFormats (.succeed none) ⟨[1], [], []⟩
          { DmaBufFeedback.zero with formatTable := ⟨.region 1 tableFile, 1⟩ } [0, 0, 0] =
        .error .outOfBounds :=
  ⟨rfl, (dmabufFeedbackTrancheFormats_odd_size _ _ _ [0, 0, 0] rfl).trans rfl⟩

end EglWayland
