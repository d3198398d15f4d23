import EglWayland.Storage

/-!
# Binding the display's globals

Once the device display is initialized, `wlEglInitializeHook` makes a registry on a
private queue and runs a round trip through `registry_handle_global`, which binds the
EGLStream, dma-buf, presentation and syncobj globals the compositor announces.  It then
listens on the EGLStream display or, without one, on the dma-buf object, which it asks for
default feedback when the advertised version allows, and makes a second round trip, whose
announcements go through the same handler.

Proxies are numbered by the allocation that made them, `0` standing for `NULL`.  Besides
the display's fields, the state keeps the requests sent so far that depend on a protocol
version: each bind with the version it asks for, and each `get_default_feedback`.  A bind
whose proxy cannot be allocated sends nothing.
-/

namespace EglWayland
namespace Display

structure RegistryGlobal where
  name : Nat
  interface : String
  version : Nat
  deriving DecidableEq, Repr

inductive Request where
  | bind (name : Nat) (interface : String) (version : Nat) (proxy : Nat)
  | getDefaultFeedback (dmaBuf : Nat)
  deriving DecidableEq, Repr

/-- The fields of a `WlEglDisplay` that `registry_handle_global` and the protocol part of
`wlEglInitializeHook` read and write, with `defaultFeedback.wlDmaBufFeedback`; the requests
sent so far, oldest first; and the number of proxy allocations made.  The header declaring
`dmaBufProtocolVersion` is not part of the source; it holds the `uint32_t` version here. -/
structure DisplayGlobals where
  supportsNativeFenceSync : Bool
  supportsExplicitSync : Bool
  wlStreamDpy : Nat
  wlStreamCtl : Nat
  wlStreamCtlVer : Nat
  wlDmaBuf : Nat
  dmaBufProtocolVersion : Nat
  wpPresentation : Nat
  wlDrmSyncobj : Nat
  wlDmaBufFeedback : Nat
  requests : List Request
  allocs : Nat
  deriving DecidableEq, Repr

/-- What the protocol part of the initialization meets: the answer to its `n`-th proxy
allocation (the wrapper, the registry, each bound proxy, the default feedback), whether
`wl_display_create_queue` succeeds, what each `add_listener` returns, and the
announcements each round trip dispatches with the value it returns. -/
structure ProtocolEnv where
  alloc : Nat → Bool
  queueOk : Bool
  registryListenerRet : Int
  firstRoundtrip : List RegistryGlobal
  firstRet : Int
  streamListenerRet : Int
  dmaBufListenerRet : Int
  feedbackListenerRet : Int
  secondRoundtrip : List RegistryGlobal
  secondRet : Int

namespace DisplayGlobals

def create (alloc : Nat → Bool) (g : DisplayGlobals) : DisplayGlobals × Nat :=
  if alloc g.allocs then ({ g with allocs := g.allocs + 1 }, g.allocs + 1)
  else ({ g with allocs := g.allocs + 1 }, 0)

def bind (alloc : Nat → Bool) (g : DisplayGlobals) (name : Nat) (interface : String)
    (version : Nat) : DisplayGlobals × Nat :=
  let (g, proxy) := g.create alloc
  (if proxy = 0 then g else { g with requests := g.requests ++ [.bind name interface version proxy] },
    proxy)

@[simp] theorem create_requests (alloc : Nat → Bool) (g : DisplayGlobals) :
    (g.create alloc).1.requests = g.requests := by
  unfold create
  split_ifs <;> rfl

theorem bind_eq (alloc : Nat → Bool) (g : DisplayGlobals) (name : Nat) (interface : String)
    (version : Nat) :
    g.bind alloc name interface version =
      ({ g with allocs := g.allocs + 1,
                requests := if alloc g.allocs then
                  g.requests ++ [.bind name interface version (g.allocs + 1)] else g.requests },
        if alloc g.allocs then g.allocs + 1 else 0) := by
  unfold bind create
  split_ifs <;> rfl

end DisplayGlobals

open DisplayGlobals

def registryHandleGlobal (alloc : Nat → Bool) (g : DisplayGlobals) (a : RegistryGlobal) :
    DisplayGlobals :=
  if a.interface = "wl_eglstream_display" then
    let (g, p) := g.bind alloc a.name a.interface 1
    { g with wlStreamDpy := p }
  else if a.interface = "wl_eglstream_controller" then
    let (g, p) := g.bind alloc a.name a.interface (if 1 < a.version then 2 else 1)
    { g with wlStreamCtl := p, wlStreamCtlVer := a.version }
  else if a.interface = "zwp_linux_dmabuf_v1" then
    let g := if 3 ≤ a.version then
        let (g, p) := g.bind alloc a.name a.interface (if 3 < a.version then 4 else 3)
        { g with wlDmaBuf := p }
      else g
    { g with dmaBufProtocolVersion := a.version }
  else if a.interface = "wp_presentation" then
    let (g, p) := g.bind alloc a.name a.interface a.version
    { g with wpPresentation := p }
  else if a.interface = "wp_linux_drm_syncobj_manager_v1" ∧ g.supportsNativeFenceSync ∧
      g.supportsExplicitSync then
    let (g, p) := g.bind alloc a.name a.interface 1
    { g with wlDrmSyncobj := p }
  else g

def dispatchGlobals (alloc : Nat → Bool) (g : DisplayGlobals) (as : List RegistryGlobal) :
    DisplayGlobals :=
  as.foldl (registryHandleGlobal alloc) g

/-- The listener on the EGLStream display or, without one, on the dma-buf object, which is
asked for default feedback when the advertised version is at least `4`; with the value the
hook's `ret` then holds. -/
def listenForFormats (env : ProtocolEnv) (g : DisplayGlobals) : DisplayGlobals × Int :=
  if g.wlStreamDpy ≠ 0 then (g, env.streamListenerRet)
  else if g.wlDmaBuf ≠ 0 then
    if env.dmaBufListenerRet = 0 ∧ 4 ≤ g.dmaBufProtocolVersion then
      let (g', feedback) := g.create env.alloc
      ({ g' with wlDmaBufFeedback := feedback,
                 requests := g'.requests ++ [.getDefaultFeedback g.wlDmaBuf] },
        if feedback ≠ 0 then env.feedbackListenerRet else 0)
    else (g, env.dmaBufListenerRet)
  else (g, 0)

def registryRoundtrip (env : ProtocolEnv) (g : DisplayGlobals) : DisplayGlobals × Int :=
  if env.registryListenerRet = 0 then (dispatchGlobals env.alloc g env.firstRoundtrip, env.firstRet)
  else (g, env.registryListenerRet)

/-- `wlEglInitializeHook` from `wl_display_create_queue` to the second round trip: the
display's globals, and whether the hook goes on (`false` is the jump to `fail` with
`EGL_BAD_ALLOC`).  A `NULL` wrapper is passed to `wl_proxy_set_queue`, and a `NULL`
registry to `wl_registry_add_listener`. -/
def initializeProtocols (env : ProtocolEnv) (g : DisplayGlobals) :
    Except Fault (DisplayGlobals × Bool) :=
  if env.queueOk = false then .ok (g, false)
  else
    let (g, wrapper) := g.create env.alloc
    if wrapper = 0 then .error .nullDeref
    else
      let (g, registry) := g.create env.alloc
      if registry = 0 then .error .nullDeref
      else
        let (g, ret) := registryRoundtrip env g
        if ret < 0 then .ok (g, false)
        else
          let (g, ret) := listenForFormats env g
          if ret < 0 ∨ (g.wlStreamDpy = 0 ∧ g.wlDmaBuf = 0) then .ok (g, false)
          else .ok (dispatchGlobals env.alloc g env.secondRoundtrip, decide (0 ≤ env.secondRet))

/-!
# Which versions the requests ask for

Each announcement sends at most one bind, and it answers the announcement.  Other interfaces
than `zwp_linux_dmabuf_v1` leave the dma-buf proxy and version alone; a `zwp_linux_dmabuf_v1`
announcement binds when its version is at least `3`, and sets the version either way.
-/

/-- A bind answers an announcement: it names its global and interface, and a
`zwp_linux_dmabuf_v1` one has an advertised version of at least `3` and asks for the
smaller of it and `4`. -/
def Request.Answers (a : RegistryGlobal) : Request → Prop
  | .bind name interface version _ =>
      name = a.name ∧ interface = a.interface ∧
        (interface = "zwp_linux_dmabuf_v1" → 3 ≤ a.version ∧ version = min a.version 4)
  | .getDefaultFeedback _ => False

/-- An advertised `zwp_linux_dmabuf_v1` version of `4` or more goes with no dma-buf proxy or
with one bound at version `4`. -/
def DmaBufInv (g : DisplayGlobals) : Prop :=
  4 ≤ g.dmaBufProtocolVersion → g.wlDmaBuf ≠ 0 →
    ∃ name, Request.bind name "zwp_linux_dmabuf_v1" 4 g.wlDmaBuf ∈ g.requests

theorem registryHandleGlobal_requests (alloc : Nat → Bool) (g : DisplayGlobals)
    (a : RegistryGlobal) :
    ∃ new, (registryHandleGlobal alloc g a).requests = g.requests ++ new ∧
      ∀ r ∈ new, r.Answers a := by
  have hbind : ∀ (g : DisplayGlobals) (v : Nat),
      (a.interface = "zwp_linux_dmabuf_v1" → 3 ≤ a.version ∧ v = min a.version 4) →
      ∃ new, (g.bind alloc a.name a.interface v).1.requests = g.requests ++ new ∧
        ∀ r ∈ new, r.Answers a := by
    intro g v hv
    rw [bind_eq]
    split_ifs
    · exact ⟨_, rfl, by simpa [Request.Answers] using hv⟩
    · exact ⟨[], (List.append_nil _).symm, by simp⟩
  have hother : ∀ {s : String} {v : Nat}, a.interface = s → s ≠ "zwp_linux_dmabuf_v1" →
      a.interface = "zwp_linux_dmabuf_v1" → 3 ≤ a.version ∧ v = min a.version 4 :=
    fun hs hne h => absurd (hs.symm.trans h) hne
  have hnone : ∃ new, g.requests = g.requests ++ new ∧ ∀ r ∈ new, r.Answers a :=
    ⟨[], (List.append_nil _).symm, by simp⟩
  unfold registryHandleGlobal
  by_cases hs : a.interface = "wl_eglstream_display"
  · rw [if_pos hs]
    exact hbind g 1 (hother hs (by decide))
  rw [if_neg hs]
  by_cases hc : a.interface = "wl_eglstream_controller"
  · rw [if_pos hc]
    exact hbind g _ (hother hc (by decide))
  rw [if_neg hc]
  by_cases hd : a.interface = "zwp_linux_dmabuf_v1"
  · rw [if_pos hd]
    by_cases hv : 3 ≤ a.version
    · rw [if_pos hv]
      exact hbind g _ fun _ => ⟨hv, by split_ifs <;> omega⟩
    · rw [if_neg hv]
      exact hnone
  rw [if_neg hd]
  by_cases hp : a.interface = "wp_presentation"
  · rw [if_pos hp]
    exact hbind g _ fun h => absurd h hd
  rw [if_neg hp]
  split_ifs
  · exact hbind g 1 fun h => absurd h hd
  · exact hnone

theorem registryHandleGlobal_of_ne {a : RegistryGlobal} (ha : a.interface ≠ "zwp_linux_dmabuf_v1")
    (alloc : Nat → Bool) (g : DisplayGlobals) :
    (registryHandleGlobal alloc g a).wlDmaBuf = g.wlDmaBuf ∧
      (registryHandleGlobal alloc g a).dmaBufProtocolVersion = g.dmaBufProtocolVersion := by
  unfold registryHandleGlobal
  split_ifs <;> simp [bind_eq]

theorem registryHandleGlobal_of_dmaBuf {a : RegistryGlobal}
    (ha : a.interface = "zwp_linux_dmabuf_v1") (alloc : Nat → Bool) (g : DisplayGlobals) :
    registryHandleGlobal alloc g a =
      { (if 3 ≤ a.version then
          let b := g.bind alloc a.name a.interface (if 3 < a.version then 4 else 3)
          { b.1 with wlDmaBuf := b.2 }
        else g) with dmaBufProtocolVersion := a.version } := by
  unfold registryHandleGlobal
  rw [if_neg (by rw [ha]; decide), if_neg (by rw [ha]; decide), if_pos ha]

theorem DmaBufInv.registryHandleGlobal {g : DisplayGlobals} (h : DmaBufInv g)
    (alloc : Nat → Bool) (a : RegistryGlobal) : DmaBufInv (registryHandleGlobal alloc g a) := by
  by_cases ha : a.interface = "zwp_linux_dmabuf_v1"
  · -- the announcement sets the version, and binds at `4` when it is `4` or more
    intro hv hp
    rw [registryHandleGlobal_of_dmaBuf ha] at hv hp ⊢
    dsimp only at hv
    rw [if_pos (by omega : 3 ≤ a.version), if_pos (by omega : 3 < a.version), bind_eq] at hp ⊢
    dsimp only at hp ⊢
    split_ifs at hp ⊢
    · exact ⟨a.name, by simp [ha]⟩
    · exact absurd rfl hp
  · obtain ⟨hd, hver⟩ := registryHandleGlobal_of_ne ha alloc g
    obtain ⟨new, hreq, -⟩ := registryHandleGlobal_requests alloc g a
    intro hv hp
    rw [hd, hver] at *
    obtain ⟨name, hmem⟩ := h hv hp
    exact ⟨name, hreq ▸ List.mem_append_left _ hmem⟩

/-!
# Over the round trips

A round trip sends only binds, each answering one of its announcements.  `FeedbackOnVersion4`
says that each `get_default_feedback` goes to a proxy that a bind of `zwp_linux_dmabuf_v1` at
version `4` made before it.
-/

theorem dispatchGlobals_cons (alloc : Nat → Bool) (g : DisplayGlobals) (a : RegistryGlobal)
    (rest : List RegistryGlobal) :
    dispatchGlobals alloc g (a :: rest) = dispatchGlobals alloc (registryHandleGlobal alloc g a) rest :=
  rfl

theorem dispatchGlobals_requests (alloc : Nat → Bool) :
    ∀ (as : List RegistryGlobal) (g : DisplayGlobals),
      ∃ new, (dispatchGlobals alloc g as).requests = g.requests ++ new ∧
        ∀ r ∈ new, ∃ a ∈ as, r.Answers a
  | [], g => ⟨[], (List.append_nil _).symm, by simp⟩
  | a :: rest, g => by
      obtain ⟨new₁, h₁, hans₁⟩ := registryHandleGlobal_requests alloc g a
      obtain ⟨new₂, h₂, hans₂⟩ := dispatchGlobals_requests alloc rest (registryHandleGlobal alloc g a)
      refine ⟨new₁ ++ new₂, by rw [dispatchGlobals_cons, h₂, h₁, List.append_assoc], fun r hr => ?_⟩
      rcases List.mem_append.1 hr with hr | hr
      · exact ⟨a, List.mem_cons_self a rest, hans₁ r hr⟩
      · obtain ⟨a', ha', hans⟩ := hans₂ r hr
        exact ⟨a', List.mem_cons_of_mem a ha', hans⟩

theorem DmaBufInv.dispatchGlobals (alloc : Nat → Bool) :
    ∀ (as : List RegistryGlobal) {g : DisplayGlobals}, DmaBufInv g →
      DmaBufInv (dispatchGlobals alloc g as)
  | [], _, h => h
  | a :: rest, _, h => DmaBufInv.dispatchGlobals alloc rest (h.registryHandleGlobal alloc a)

theorem DmaBufInv.create {g : DisplayGlobals} (h : DmaBufInv g) (alloc : Nat → Bool) :
    DmaBufInv (g.create alloc).1 := by
  unfold DisplayGlobals.create
  split_ifs <;> exact h

theorem DmaBufInv.registryRoundtrip {g : DisplayGlobals} (h : DmaBufInv g) (env : ProtocolEnv) :
    DmaBufInv (registryRoundtrip env g).1 := by
  unfold Display.registryRoundtrip
  split_ifs
  · exact h.dispatchGlobals env.alloc env.firstRoundtrip
  · exact h

def FeedbackOnVersion4 (base new : List Request) : Prop :=
  ∀ pre p post, new = pre ++ .getDefaultFeedback p :: post →
    ∃ name, Request.bind name "zwp_linux_dmabuf_v1" 4 p ∈ base ++ pre

theorem feedbackOnVersion4_of_binds {base new : List Request}
    (h : ∀ r ∈ new, ∀ p, r ≠ .getDefaultFeedback p) : FeedbackOnVersion4 base new := by
  rintro pre p post rfl
  exact absurd rfl (h _ (by simp) p)

theorem feedbackOnVersion4_single {base : List Request} {p : Nat} {name : Nat}
    (h : Request.bind name "zwp_linux_dmabuf_v1" 4 p ∈ base) :
    FeedbackOnVersion4 base [.getDefaultFeedback p] := by
  intro pre p' post heq
  cases pre with
  | nil =>
      simp only [List.nil_append, List.cons.injEq, Request.getDefaultFeedback.injEq] at heq
      obtain ⟨rfl, -⟩ := heq
      exact ⟨name, by simpa using h⟩
  | cons x rest => simp at heq

theorem FeedbackOnVersion4.append {base xs ys : List Request} (hx : FeedbackOnVersion4 base xs)
    (hy : FeedbackOnVersion4 (base ++ xs) ys) : FeedbackOnVersion4 base (xs ++ ys) := by
  intro pre p post heq
  rcases List.append_eq_append_iff.1 heq.symm with ⟨a', rfl, ha'⟩ | ⟨c', rfl, hc'⟩
  · cases a' with
    | nil =>
        obtain ⟨name, hmem⟩ := hy [] p post (by simpa using ha'.symm)
        exact ⟨name, by simpa using hmem⟩
    | cons x rest =>
        obtain ⟨rfl, rfl⟩ := List.cons_eq_cons.1 ha'
        exact hx pre p rest rfl
  · obtain ⟨name, hmem⟩ := hy c' p post hc'
    exact ⟨name, by simpa using hmem⟩

/-! # The protocol part of the initialization -/

/-- What the protocol part adds to the requests `base`: binds answering an announcement of
one of its round trips, and `get_default_feedback`s, each on a proxy bound at version `4`
before it. -/
def VersionedSince (env : ProtocolEnv) (base : List Request) (g : DisplayGlobals) : Prop :=
  ∃ new, g.requests = base ++ new ∧
    (∀ r ∈ new, (∃ a ∈ env.firstRoundtrip ++ env.secondRoundtrip, r.Answers a) ∨
      ∃ p, r = .getDefaultFeedback p) ∧
    FeedbackOnVersion4 base new

namespace VersionedSince

variable {env : ProtocolEnv} {base : List Request} {g : DisplayGlobals}

theorem of_requests (h : g.requests = base) : VersionedSince env base g :=
  ⟨[], by simp [h], by simp, feedbackOnVersion4_of_binds (by simp)⟩

theorem create (h : VersionedSince env base g) (alloc : Nat → Bool) :
    VersionedSince env base (g.create alloc).1 := by
  rw [VersionedSince, DisplayGlobals.create_requests]
  exact h

theorem dispatch (h : VersionedSince env base g) {as : List RegistryGlobal}
    (has : ∀ a ∈ as, a ∈ env.firstRoundtrip ++ env.secondRoundtrip) :
    VersionedSince env base (dispatchGlobals env.alloc g as) := by
  obtain ⟨new, hreq, hkind, hfb⟩ := h
  obtain ⟨new', hreq', hans⟩ := dispatchGlobals_requests env.alloc as g
  refine ⟨new ++ new', by rw [hreq', hreq, List.append_assoc], fun r hr => ?_,
    hfb.append (feedbackOnVersion4_of_binds fun r hr p hp => ?_)⟩
  · rcases List.mem_append.1 hr with hr | hr
    · exact hkind r hr
    · obtain ⟨a, ha, hans⟩ := hans r hr
      exact .inl ⟨a, has a ha, hans⟩
  · obtain ⟨a, -, hans⟩ := hans r hr
    subst hp
    exact hans

theorem listen (h : VersionedSince env base g) (hinv : DmaBufInv g) :
    VersionedSince env base (listenForFormats env g).1 := by
  unfold listenForFormats
  split_ifs with hs hd hask
  · exact h
  · -- the feedback request goes to `wlDmaBuf`, which the invariant says was bound at `4`
    obtain ⟨new, hreq, hkind, hfb⟩ := h
    obtain ⟨name, hmem⟩ := hinv hask.2 hd
    refine ⟨new ++ [.getDefaultFeedback g.wlDmaBuf], by simp [hreq], fun r hr => ?_,
      hfb.append (@feedbackOnVersion4_single _ _ name ?_)⟩
    · rcases List.mem_append.1 hr with hr | hr
      · exact hkind r hr
      · exact .inr ⟨_, List.mem_singleton.1 hr⟩
    · rw [← hreq]
      exact hmem
  · exact h
  · exact h

theorem registryRoundtrip (h : VersionedSince env base g) :
    VersionedSince env base (registryRoundtrip env g).1 := by
  unfold Display.registryRoundtrip
  split_ifs
  · exact h.dispatch fun a ha => List.mem_append_left _ ha
  · exact h

end VersionedSince

/-- During the initialization every bind of `zwp_linux_dmabuf_v1` answers an announcement
of version `3` or more and asks for the smaller of it and `4`, and every
`get_default_feedback` goes to a proxy bound at version `4` before it, however the
announcements of the two round trips overwrite `wlDmaBuf` and `dmaBufProtocolVersion`. -/
theorem initializeProtocols_dmaBuf_versions {env : ProtocolEnv} {g₀ g : DisplayGlobals}
    {ok : Bool} (hinv : DmaBufInv g₀) (h : initializeProtocols env g₀ = .ok (g, ok)) :
    ∃ new, g.requests = g₀.requests ++ new ∧
      (∀ r ∈ new, (∃ a ∈ env.firstRoundtrip ++ env.secondRoundtrip, r.Answers a) ∨
        ∃ p, r = .getDefaultFeedback p) ∧
      FeedbackOnVersion4 g₀.requests new := by
  show VersionedSince env g₀.requests g
  unfold initializeProtocols at h
  split_ifs at h
  · cases h
    exact .of_requests rfl
  split at h
  rename_i g₁ _ hw
  split_ifs at h
  split at h
  rename_i g₂ _ hr
  split_ifs at h
  -- the wrapper and the registry send nothing
  have hg₂ : g₂ = ((g₀.create env.alloc).1.create env.alloc).1 := by rw [hw, hr]
  have hs₂ : VersionedSince env g₀.requests g₂ :=
    hg₂ ▸ ((VersionedSince.of_requests rfl).create env.alloc).create env.alloc
  have hinv₂ : DmaBufInv g₂ := hg₂ ▸ (hinv.create env.alloc).create env.alloc
  split at h
  rename_i g₃ _ hret
  have hg₃ : g₃ = (registryRoundtrip env g₂).1 := by rw [hret]
  split_ifs at h
  · cases h
    exact hg₃ ▸ hs₂.registryRoundtrip
  split at h
  rename_i g₄ _ hlisten
  have hs₄ : VersionedSince env g₀.requests g₄ := by
    have hs := (hg₃ ▸ hs₂.registryRoundtrip).listen (hg₃ ▸ hinv₂.registryRoundtrip env)
    rwa [hlisten] at hs
  split_ifs at h
  · cases h
    exact hs₄
  · cases h
    exact hs₄.dispatch fun a ha => List.mem_append_right _ ha

def DisplayGlobals.zero : DisplayGlobals := ⟨false, false, 0, 0, 0, 0, 0, 0, 0, 0, [], 0⟩

theorem dmaBufInv_zero : DmaBufInv .zero := fun h => absurd h (by decide)

def upgradingCompositor : ProtocolEnv :=
  ⟨fun _ => true, true, 0,
    [⟨1, "zwp_linux_dmabuf_v1", 3⟩, ⟨2, "wp_presentation", 1⟩, ⟨3, "zwp_linux_dmabuf_v1", 5⟩],
    0, 0, 0, 0, [⟨4, "zwp_linux_dmabuf_v1", 2⟩], 0⟩

theorem upgradingCompositor_feedback_on_version4 :
    DmaBufInv .zero ∧ ∃ g, initializeProtocols upgradingCompositor .zero = .ok (g, true) ∧
      VersionedSince upgradingCompositor [] g :=
  ⟨dmaBufInv_zero, _, rfl, initializeProtocols_dmaBuf_versions dmaBufInv_zero rfl⟩

-- The second announcement rebinds at `4`, and the feedback goes to that proxy.
example : (initializeProtocols upgradingCompositor .zero).map (·.1.requests) =
    .ok [.bind 1 "zwp_linux_dmabuf_v1" 3 3, .bind 2 "wp_presentation" 1 4,
      .bind 3 "zwp_linux_dmabuf_v1" 4 5, .getDefaultFeedback 5] := rfl

end Display
end EglWayland
