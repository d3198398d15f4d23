import EglWayland.Feedback.Safety

/-!
# The display's dma-buf state across initializations

A `WlEglDisplay` stays in `wlEglDisplayList` from `wlEglGetPlatformDisplayExport` on and may be
initialized and terminated any number of times.  An initialization that binds
`zwp_linux_dmabuf_v1` fills the display's format set from the `modifier` events of its round
trips and, from version 4 on, stores the proxy `get_default_feedback` returns in the display's
default feedback, whose events then go to the feedback handlers.  The `terminateDisplay` that
takes the count to zero, and the one a failed initialization calls, releases the set with
`wlEglDestroyFormatSet` and the feedback with `wlEglDestroyFeedback`.

Neither release resets what it releases: the set keeps its count and its freed array, and the
feedback keeps its destroyed proxy.  The first later use of either, by the next initialization
or the next termination, touches released storage.
-/

namespace EglWayland
namespace Display

/-- The part of a `WlEglDisplay` that the dma-buf protocol fills and `terminateDisplay`
releases. -/
structure DmaBufDisplay where
  formatSet : DmaBufFormatSet
  defaultFeedback : DmaBufFeedback

/-- The display as `calloc` leaves it. -/
def DmaBufDisplay.zero : DmaBufDisplay := ⟨.empty, .zero⟩

/-- What happens to that part over the display's life: a `modifier` event of the dma-buf
object, with the answers of the `realloc`s of `wlEglFormatSetAdd`; the `get_default_feedback`
of an initialization, with the proxy it returns (`0` for `NULL`); an event of the default
feedback; and the release by `terminateDisplay`. -/
inductive DmaBufEvent where
  | modifier (format modHi modLo : UInt32) (okFormats okModifiers : Bool)
  | getDefaultFeedback (proxy : Nat)
  | feedback (e : FeedbackEvent) (env : FeedbackEnv)
  | release

/-- `wlEglDestroyFormatSet(&display->formatSet)` and
`wlEglDestroyFeedback(&display->defaultFeedback)` in `terminateDisplay`. -/
def releaseDmaBuf (p : Proc) (d : DmaBufDisplay) : Except Fault (Proc × DmaBufDisplay) := do
  let formatSet ← wlEglDestroyFormatSet d.formatSet
  let (p, defaultFeedback) ← wlEglDestroyFeedback p d.defaultFeedback
  pure (p, ⟨formatSet, defaultFeedback⟩)

def dmaBufStep (p : Proc) (d : DmaBufDisplay) : DmaBufEvent → Except Fault (Proc × DmaBufDisplay)
  | .modifier format modHi modLo okFormats okModifiers =>
      (dmabufHandleModifier d.formatSet format modHi modLo okFormats okModifiers).map
        fun set => (p, { d with formatSet := set })
  | .getDefaultFeedback proxy =>
      .ok (if proxy = 0 then p else { p with proxies := proxy :: p.proxies },
        { d with defaultFeedback := { d.defaultFeedback with wlDmaBufFeedback := proxy } })
  | .feedback e env =>
      (dmabufFeedbackListener env p d.defaultFeedback e).map
        fun pf => (pf.1, { d with defaultFeedback := pf.2 })
  | .release => releaseDmaBuf p d

def runDmaBuf (p : Proc) (d : DmaBufDisplay) : List DmaBufEvent → Except Fault (Proc × DmaBufDisplay)
  | [] => .ok (p, d)
  | e :: rest => (dmaBufStep p d e).bind fun pd => runDmaBuf pd.1 pd.2 rest

def DmaBufEvent.touchesFormatSet : DmaBufEvent → Bool
  | .modifier .. => true
  | .release => true
  | _ => false

def DmaBufEvent.isModifier : DmaBufEvent → Bool
  | .modifier .. => true
  | _ => false

/-!
# What the release leaves

A release that returns has released both parts, and left each as it found it but for the freed
storage.
-/

theorem wlEglDestroyFormatSet_live {xs : List DmaBufFormat} {set : DmaBufFormatSet}
    (h : wlEglDestroyFormatSet ⟨.live xs⟩ = .ok set) : set = ⟨.dangling xs.length⟩ := by
  obtain ⟨_, -, h⟩ := except_bind_eq_ok.1 h
  simp only [CArray.free_live, except_ok_bind, except_pure, Except.ok.injEq] at h
  exact h.symm

theorem wlEglDestroyFormatSet_dangling (n : Nat) :
    wlEglDestroyFormatSet ⟨.dangling (n + 1)⟩ = .error .useAfterFree :=
  rfl

theorem releaseDmaBuf_spec {p p' : Proc} {d d' : DmaBufDisplay}
    (h : releaseDmaBuf p d = .ok (p', d')) :
    wlEglDestroyFormatSet d.formatSet = .ok d'.formatSet ∧
      wlEglDestroyFeedback p d.defaultFeedback = .ok (p', d'.defaultFeedback) := by
  obtain ⟨set, hset, h⟩ := except_bind_eq_ok.1 h
  obtain ⟨⟨p₁, fb⟩, hfb, h⟩ := except_bind_eq_ok.1 h
  cases h
  exact ⟨hset, hfb⟩

/-! # Events that leave the format set alone -/

theorem dmaBufStep_formatSet {p p' : Proc} {d d' : DmaBufDisplay} {e : DmaBufEvent}
    (he : e.touchesFormatSet = false) (h : dmaBufStep p d e = .ok (p', d')) :
    d'.formatSet = d.formatSet := by
  cases e with
  | getDefaultFeedback proxy => cases h; rfl
  | feedback e env =>
      obtain ⟨_, -, h⟩ := except_map_eq_ok.1 h
      cases h
      rfl
  | modifier => cases he
  | release => cases he

theorem runDmaBuf_formatSet : ∀ {pre : List DmaBufEvent} {p p' : Proc} {d d' : DmaBufDisplay},
    (∀ e ∈ pre, e.touchesFormatSet = false) → runDmaBuf p d pre = .ok (p', d') →
    d'.formatSet = d.formatSet
  | [], _, _, _, _, _, h => by cases h; rfl
  | e :: rest, _, _, _, _, hpre, h => by
      obtain ⟨⟨p₁, d₁⟩, hstep, hrun⟩ := except_bind_eq_ok.1 h
      exact (runDmaBuf_formatSet (fun x hx => hpre x (List.mem_cons_of_mem e hx)) hrun).trans
        (dmaBufStep_formatSet (hpre e (List.mem_cons_self e rest)) hstep)

/-- A format set released with formats in it keeps their count: whatever comes after the
release, the first event that touches the set, a `modifier` announcement of the next
initialization or the next release, reads the freed array. -/
theorem releasedFormatSet_read_after_free {p p₀ p₁ : Proc} {d d₀ d₁ : DmaBufDisplay}
    {xs : List DmaBufFormat} (hset : d.formatSet = ⟨.live xs⟩) (hne : xs ≠ [])
    (hrel : releaseDmaBuf p d = .ok (p₀, d₀)) {pre : List DmaBufEvent}
    (hpre : ∀ e ∈ pre, e.touchesFormatSet = false) (hrun : runDmaBuf p₀ d₀ pre = .ok (p₁, d₁))
    {e : DmaBufEvent} (he : e.touchesFormatSet = true) :
    dmaBufStep p₁ d₁ e = .error .useAfterFree := by
  have hfreed : d₀.formatSet = ⟨.dangling xs.length⟩ :=
    wlEglDestroyFormatSet_live (hset ▸ (releaseDmaBuf_spec hrel).1)
  obtain ⟨n, hn⟩ : ∃ n, xs.length = n + 1 :=
    Nat.exists_eq_succ_of_ne_zero (List.length_pos.2 hne).ne'
  have hset₁ : d₁.formatSet = ⟨.dangling (n + 1)⟩ := by
    rw [runDmaBuf_formatSet hpre hrun, hfreed, hn]
  cases e with
  | modifier format modHi modLo okFormats okModifiers =>
      simp only [dmaBufStep, dmabufHandleModifier, hset₁, wlEglFormatSetAdd_dangling]
      rfl
  | release =>
      simp only [dmaBufStep, releaseDmaBuf, hset₁, wlEglDestroyFormatSet_dangling]
      rfl
  | getDefaultFeedback => cases he
  | feedback => cases he

/-- A version-3 compositor announces a modifier at each initialization: the first
initialization fills the `calloc`ed set, and the second one's announcement reads the set the
termination between them freed. -/
theorem reinitialized_modifier_reads_freed_set :
    runDmaBuf .empty .zero [.modifier 0x34325258 0 0 true true] =
      .ok (.empty, ⟨⟨.live [⟨0x34325258, .live [0]⟩]⟩, .zero⟩) ∧
    releaseDmaBuf .empty ⟨⟨.live [⟨0x34325258, .live [0]⟩]⟩, .zero⟩ =
      .ok (⟨[], [(.null, 0)], []⟩, ⟨⟨.dangling 1⟩, .zero⟩) ∧
    dmaBufStep ⟨[], [(.null, 0)], []⟩ ⟨⟨.dangling 1⟩, .zero⟩
        (.modifier 0x34325258 0 0 true true) = .error .useAfterFree :=
  have hrel : releaseDmaBuf .empty ⟨⟨.live [⟨0x34325258, .live [0]⟩]⟩, .zero⟩ =
      .ok (⟨[], [(.null, 0)], []⟩, ⟨⟨.dangling 1⟩, .zero⟩) := rfl
  ⟨rfl, hrel, releasedFormatSet_read_after_free rfl (List.cons_ne_nil _ _) hrel
    (fun (e : DmaBufEvent) (h : e ∈ ([] : List DmaBufEvent)) => absurd h (List.not_mem_nil e))
    rfl rfl⟩

/-!
# The destroyed feedback proxy

A `modifier` announcement changes only the format set, and keeps it clean.
-/

theorem dmaBufStep_modifier {p p' : Proc} {d d' : DmaBufDisplay} {e : DmaBufEvent}
    (he : e.isModifier = true) (h : dmaBufStep p d e = .ok (p', d')) :
    p' = p ∧ d'.defaultFeedback = d.defaultFeedback ∧
      (d.formatSet.Clean → d'.formatSet.Clean) := by
  cases e with
  | modifier format modHi modLo okFormats okModifiers =>
      obtain ⟨set, hadd, h⟩ := except_map_eq_ok.1 h
      cases h
      refine ⟨rfl, rfl, fun hcl => ?_⟩
      obtain ⟨set', hadd', hcl', -⟩ := wlEglFormatSetAdd_spec hcl format _ okFormats okModifiers
      rw [dmabufHandleModifier, hadd'] at hadd
      cases hadd
      exact hcl'
  | _ => cases he

theorem runDmaBuf_modifiers : ∀ {pre : List DmaBufEvent} {p p' : Proc} {d d' : DmaBufDisplay},
    (∀ e ∈ pre, e.isModifier = true) → runDmaBuf p d pre = .ok (p', d') →
    p' = p ∧ d'.defaultFeedback = d.defaultFeedback ∧ (d.formatSet.Clean → d'.formatSet.Clean)
  | [], _, _, _, _, _, h => by cases h; exact ⟨rfl, rfl, id⟩
  | e :: rest, _, _, _, _, hpre, h => by
      obtain ⟨⟨p₁, d₁⟩, hstep, hrun⟩ := except_bind_eq_ok.1 h
      obtain ⟨hp₁, hfb₁, hcl₁⟩ := dmaBufStep_modifier (hpre e (List.mem_cons_self e rest)) hstep
      obtain ⟨hp, hfb, hcl⟩ :=
        runDmaBuf_modifiers (fun x hx => hpre x (List.mem_cons_of_mem e hx)) hrun
      exact ⟨hp.trans hp₁, hfb.trans hfb₁, hcl ∘ hcl₁⟩

/-- The feedback keeps its destroyed proxy: after a release that destroyed it, the next
release destroys it again when nothing but `modifier` announcements comes between, as in an
initialization that fails before `get_default_feedback` or one on a compositor below
version 4. -/
theorem releasedFeedback_destroyed_again {p p₀ p₁ : Proc} {d d₀ d₁ : DmaBufDisplay}
    (hset : d.formatSet = .empty) (hproxy : d.defaultFeedback.wlDmaBufFeedback ≠ 0)
    (hnodup : p.proxies.Nodup) (hrel : releaseDmaBuf p d = .ok (p₀, d₀))
    {pre : List DmaBufEvent} (hpre : ∀ e ∈ pre, e.isModifier = true)
    (hrun : runDmaBuf p₀ d₀ pre = .ok (p₁, d₁)) :
    dmaBufStep p₁ d₁ .release = .error .useAfterFree := by
  obtain ⟨hdset, hdfb⟩ := releaseDmaBuf_spec hrel
  obtain ⟨-, -, hproxies, -, hkept, hcount⟩ := wlEglDestroyFeedback_spec hdfb
  rw [hset, wlEglDestroyFormatSet_empty, Except.ok.injEq] at hdset
  obtain ⟨rfl, hfb₁, hcl₁⟩ := runDmaBuf_modifiers hpre hrun
  obtain ⟨set, hdestroy⟩ :=
    destroyFormatSet_ok_of_clean (hcl₁ (hdset ▸ DmaBufFormatSet.clean_empty))
  rw [← hfb₁] at hkept hcount
  have hlive : d₁.defaultFeedback.wlDmaBufFeedback ≠ 0 := hkept ▸ hproxy
  have hgone : d₁.defaultFeedback.wlDmaBufFeedback ∉ p₁.proxies := by
    rw [hproxies, if_neg hproxy, hkept]
    exact hnodup.not_mem_erase
  have hreset : wlEglFeedbackResetTranches d₁.defaultFeedback = .ok d₁.defaultFeedback := by
    rw [wlEglFeedbackResetTranches, if_pos hcount]
  simp only [dmaBufStep, releaseDmaBuf, hdestroy, except_ok_bind, wlEglDestroyFeedback, hreset,
    hlive, ↓reduceIte, Proc.destroyProxy, Proc.munmap, hgone, except_error_bind]

/-- A version-4 compositor gives the first initialization feedback proxy `7`; the second
initialization fails before asking for feedback, and its release destroys proxy `7` again. -/
theorem failedReinitialization_destroys_feedback_again :
    runDmaBuf ⟨[], [], []⟩ .zero [.getDefaultFeedback 7] =
      .ok (⟨[], [], [7]⟩, ⟨.empty, { DmaBufFeedback.zero with wlDmaBufFeedback := 7 }⟩) ∧
    releaseDmaBuf ⟨[], [], [7]⟩ ⟨.empty, { DmaBufFeedback.zero with wlDmaBufFeedback := 7 }⟩ =
      .ok (⟨[], [(.null, 0)], []⟩, ⟨.empty, { DmaBufFeedback.zero with wlDmaBufFeedback := 7 }⟩) ∧
    dmaBufStep ⟨[], [(.null, 0)], []⟩
        ⟨.empty, { DmaBufFeedback.zero with wlDmaBufFeedback := 7 }⟩ .release =
      .error .useAfterFree :=
  have hrel : releaseDmaBuf ⟨[], [], [7]⟩
      ⟨.empty, { DmaBufFeedback.zero with wlDmaBufFeedback := 7 }⟩ =
      .ok (⟨[], [(.null, 0)], []⟩, ⟨.empty, { DmaBufFeedback.zero with wlDmaBufFeedback := 7 }⟩) :=
    rfl
  ⟨rfl, hrel, releasedFeedback_destroyed_again rfl (by decide) (by decide) hrel
    (fun (e : DmaBufEvent) (h : e ∈ ([] : List DmaBufEvent)) => absurd h (List.not_mem_nil e))
    rfl⟩

end Display
end EglWayland
