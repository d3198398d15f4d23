import EglWayland.Display.Teardown

/-!
# The reference law

The reference count of a display is meant to be one for its place in `wlEglDisplayList`
plus one per hook between its `wlEglAcquireDisplay` and its `wlEglReleaseDisplay`, and the
display is freed when the count reaches zero.  This module states that law over the
threads of `Display.Threads`, together with the links between the directory and the
device registries, and proves that every section of a hook and every global teardown keeps
both, so that any interleaving of them does.  A creation is what breaks the law: it links a
display whose count is still the `0` that `calloc` left.
-/

namespace EglWayland
namespace Display

open EglState

/-!
# References held

A display at address `a` is referenced by its place in the directory (`directoryRef`) and by
every thread whose hook holds it (`holders`).
-/

def HookPc.holds (a : Nat) : HookPc → Bool
  | .acquired b | .ran b _ => b == a
  | _ => false

theorem countP_set_add {α : Type} (p : α → Bool) (x : α) :
    ∀ {l : List α} {i : Nat} {y : α}, l[i]? = some y →
      (l.set i x).countP p + (if p y then 1 else 0) = l.countP p + (if p x then 1 else 0)
  | [], _, _, h => nomatch h
  | z :: rest, 0, y, h => by
      obtain rfl : z = y := by simpa using h
      simp only [List.set_cons_zero, List.countP_cons]
      omega
  | z :: rest, i + 1, y, h => by
      have ih := countP_set_add p x (show rest[i]? = some y by simpa using h)
      simp only [List.set_cons_succ, List.countP_cons]
      omega

def EglState.directoryRef (s : EglState) (a : Nat) : Nat :=
  if a ∈ s.wlEglDisplayList then 1 else 0

namespace Sys

def holders (sys : Sys) (a : Nat) : Nat :=
  sys.threads.countP fun th => th.pc.holds a

theorem holders_setThread {sys : Sys} {t : Nat} {th : HookThread} (ht : sys.threads[t]? = some th)
    (s : EglState) (pc : HookPc) (a : Nat) :
    (sys.setThread s t th pc).holders a + (if th.pc.holds a then 1 else 0) =
      sys.holders a + (if pc.holds a then 1 else 0) :=
  countP_set_add _ _ ht

end Sys

/-!
# The law

`CountsPositive` says that no live display has a count below one; under the law it is the
same as `Referenced`.
-/

/-- The links of the directory and the registries: a listed display is live and points at
a live entry of its own platform data, and each registry lists live entries of its
platform data once. -/
structure Linked (s : EglState) : Prop where
  listed : ∀ a ∈ s.wlEglDisplayList, a ≠ 0 ∧ ∃ d, s.displays a = some d ∧ d.devDpy ≠ 0 ∧
    ∃ dd, s.devDpys d.devDpy = some dd ∧ dd.data = d.data
  nodup : s.wlEglDisplayList.Nodup
  entries_live : ∀ data, ∀ e ∈ s.deviceDpyList data,
    e ≠ 0 ∧ ∃ dd, s.devDpys e = some dd ∧ dd.data = data
  entries_nodup : ∀ data, (s.deviceDpyList data).Nodup

theorem Linked.wellFormed {s : EglState} (h : Linked s) : WellFormed s where
  listed_live a ha := by
    obtain ⟨ha0, d, hd, -⟩ := h.listed a ha
    exact ⟨ha0, d, hd⟩
  devDpy_live a ha d hd _ := by
    obtain ⟨-, d', hd', hne, dd, hdd, hdata⟩ := h.listed a ha
    rw [hd] at hd'
    cases hd'
    exact ⟨hne, dd, hdd, hdata⟩
  nodup := h.nodup
  entries_live := h.entries_live
  entries_nodup := h.entries_nodup

theorem Linked.of_frame {s s' : EglState} (h : Linked s)
    (hlist : s'.wlEglDisplayList = s.wlEglDisplayList)
    (hdisp : ∀ a ∈ s.wlEglDisplayList, ∀ d, s.displays a = some d →
      ∃ d', s'.displays a = some d' ∧ d'.data = d.data ∧ d'.devDpy = d.devDpy)
    (hdevs : ∀ e dd, s.devDpys e = some dd → ∃ dd', s'.devDpys e = some dd' ∧ dd'.data = dd.data)
    (hdl : s'.deviceDpyList = s.deviceDpyList) : Linked s' := by
  refine ⟨fun a ha => ?_, hlist ▸ h.nodup, fun data e he => ?_,
    fun data => hdl ▸ h.entries_nodup data⟩
  · rw [hlist] at ha
    obtain ⟨ha0, d, hd, hne, dd, hdd, hdata⟩ := h.listed a ha
    obtain ⟨d', hd', hdata', hdev'⟩ := hdisp a ha d hd
    obtain ⟨dd', hdd', hdata''⟩ := hdevs _ dd hdd
    exact ⟨ha0, d', hd', hdev' ▸ hne, dd', hdev' ▸ hdd', by rw [hdata'', hdata, hdata']⟩
  · rw [hdl] at he
    obtain ⟨he0, dd, hdd, hdata⟩ := h.entries_live data e he
    obtain ⟨dd', hdd', hdata'⟩ := hdevs e dd hdd
    exact ⟨he0, dd', hdd', hdata'.trans hdata⟩

/-- The reference law: a live display's count is the directory's reference plus one per
thread holding it, and a held display is live. -/
structure RefLaw (sys : Sys) : Prop where
  count : ∀ a d, sys.egl.displays a = some d →
    d.refCount = ((sys.egl.directoryRef a + sys.holders a : Nat) : Int)
  held : ∀ a, 0 < sys.holders a → a ≠ 0 ∧ ∃ d, sys.egl.displays a = some d

/-- Every live display holds a reference: its place in the directory, or a hook's. -/
def Referenced (sys : Sys) : Prop :=
  ∀ a, (sys.egl.displays a).isSome → 0 < sys.egl.directoryRef a + sys.holders a

def CountsPositive (s : EglState) : Prop :=
  ∀ a d, s.displays a = some d → 0 < d.refCount

theorem RefLaw.referenced_iff {sys : Sys} (h : RefLaw sys) :
    Referenced sys ↔ CountsPositive sys.egl := by
  constructor
  · intro href a d hd
    have := href a (by simp [hd])
    rw [h.count a d hd]
    omega
  · intro hpos a ha
    obtain ⟨d, hd⟩ := Option.isSome_iff_exists.1 ha
    have := hpos a d hd
    rw [h.count a d hd] at this
    omega

/-! # Sections under the mutex -/

/-- What a section under a display's mutex leaves of `s`: the directory and the
registries' lists, which addresses hold a display or an entry, a display's platform data,
entry and count, and an entry's platform data. -/
structure SectionFrame (s s' : EglState) : Prop where
  list : s'.wlEglDisplayList = s.wlEglDisplayList
  displays : ∀ a, (s'.displays a).map (fun d => (d.data, d.devDpy, d.refCount)) =
    (s.displays a).map (fun d => (d.data, d.devDpy, d.refCount))
  devDpys : ∀ e, (s'.devDpys e).map (·.data) = (s.devDpys e).map (·.data)
  deviceDpyList : s'.deviceDpyList = s.deviceDpyList

theorem SectionFrame.refl (s : EglState) : SectionFrame s s :=
  ⟨rfl, fun _ => rfl, fun _ => rfl, rfl⟩

theorem SectionFrame.trans {s₁ s₂ s₃ : EglState} (h₁ : SectionFrame s₁ s₂)
    (h₂ : SectionFrame s₂ s₃) : SectionFrame s₁ s₃ :=
  ⟨h₂.list.trans h₁.list, fun a => (h₂.displays a).trans (h₁.displays a),
    fun e => (h₂.devDpys e).trans (h₁.devDpys e), h₂.deviceDpyList.trans h₁.deviceDpyList⟩

theorem sectionFrame_log (s : EglState) (e : Effect) : SectionFrame s (s.log e) :=
  ⟨rfl, fun _ => rfl, fun _ => rfl, rfl⟩

theorem sectionFrame_setDisplay {s : EglState} {a : Nat} {d d' : WlEglDisplay}
    (h : s.displays a = some d) (hkey : (d'.data, d'.devDpy, d'.refCount) = (d.data, d.devDpy, d.refCount)) :
    SectionFrame s (s.setDisplay a d') := by
  refine ⟨rfl, fun b => ?_, fun _ => rfl, rfl⟩
  by_cases hb : b = a
  · subst hb
    simp [h, hkey]
  · simp [hb]

theorem sectionFrame_setDevDpy {s : EglState} {e : Nat} {dd dd' : WlEglDeviceDpy}
    (h : s.devDpys e = some dd) (hdata : dd'.data = dd.data) :
    SectionFrame s (s.setDevDpy e dd') := by
  refine ⟨rfl, fun _ => rfl, fun e' => ?_, rfl⟩
  by_cases he : e' = e
  · subst he
    simp [h, hdata]
  · simp [he]

theorem map_eq_some_of_map_eq {α β : Type} {f : α → β} {o o' : Option α} {x : α}
    (h : o'.map f = o.map f) (hx : o = some x) : ∃ y, o' = some y ∧ f y = f x :=
  Option.map_eq_some'.1 (by rw [h, hx]; rfl)

theorem SectionFrame.setInitCount {s s₁ : EglState} {a : Nat} {d : WlEglDisplay}
    (h : SectionFrame s s₁) (hd : s.displays a = some d) (n : Nat) :
    SectionFrame s (s₁.setDisplay a { d with initCount := n }) := by
  obtain ⟨d₁, hd₁, hkey⟩ := map_eq_some_of_map_eq (h.displays a) hd
  exact h.trans (sectionFrame_setDisplay hd₁ hkey.symm)

theorem SectionFrame.linked {s s' : EglState} (h : SectionFrame s s') (hl : Linked s) :
    Linked s' :=
  hl.of_frame h.list
    (fun a _ d hd => by
      obtain ⟨d', hd', hkey⟩ := map_eq_some_of_map_eq (h.displays a) hd
      simp only [Prod.mk.injEq] at hkey
      exact ⟨d', hd', hkey.1, hkey.2.1⟩)
    (fun e dd hdd => map_eq_some_of_map_eq (h.devDpys e) hdd) h.deviceDpyList

theorem wlInternalInitialize_sectionFrame {driver : Driver} {s s' : EglState} {e : Nat}
    {ok : Bool} (h : wlInternalInitialize driver s e = .ok (s', ok)) : SectionFrame s s' := by
  obtain ⟨dd, hread, h⟩ := except_bind_eq_ok.1 h
  have hdd := (s.readDevDpy_eq_ok.1 hread).2
  by_cases h0 : dd.initCount = 0
  · rw [if_pos h0] at h
    rcases hinit : driver.eglInitialize dd.eglDisplay with _ | ⟨major, minor⟩ <;>
      simp only [hinit] at h <;> cases (Except.ok.inj h)
    · exact sectionFrame_log s _
    · exact (sectionFrame_log s _).trans (sectionFrame_setDevDpy hdd rfl)
  · rw [if_neg h0] at h
    cases (Except.ok.inj h)
    exact sectionFrame_setDevDpy hdd rfl

theorem wlInternalTerminate_sectionFrame {driver : Driver} {s s' : EglState} {e : Nat}
    {ok : Bool} (h : wlInternalTerminate driver s e = .ok (s', ok)) : SectionFrame s s' := by
  obtain ⟨dd, hread, h⟩ := except_bind_eq_ok.1 h
  have hdd := (s.readDevDpy_eq_ok.1 hread).2
  split_ifs at h <;> cases (Except.ok.inj h)
  · exact .refl s
  · exact (sectionFrame_log s _).trans (sectionFrame_setDevDpy hdd rfl)
  · exact sectionFrame_log s _
  · exact sectionFrame_setDevDpy hdd rfl

theorem terminateDisplay_sectionFrame {driver : Driver} {s s' : EglState} {a : Nat}
    {g ok : Bool} (h : terminateDisplay driver s a g = .ok (s', ok)) : SectionFrame s s' := by
  obtain ⟨d, hread, h⟩ := except_bind_eq_ok.1 h
  have hd := (s.readDisplay_eq_ok.1 hread).2
  by_cases h0 : d.initCount = 0
  · rw [if_pos h0] at h
    cases (Except.ok.inj h)
    exact .refl s
  rw [if_neg h0] at h
  by_cases h1 : 1 < d.initCount ∧ g = false
  · rw [if_pos h1] at h
    cases (Except.ok.inj h)
    exact (SectionFrame.refl s).setInitCount hd _
  rw [if_neg h1] at h
  obtain ⟨⟨s₁, ok₁⟩, hterm, h⟩ := except_bind_eq_ok.1 h
  have h₁ := wlInternalTerminate_sectionFrame hterm
  dsimp only at h
  have h₂ := (h₁.setInitCount hd 0).trans (sectionFrame_log _ (.destroyAllSurfaces a))
  split_ifs at h <;> cases (Except.ok.inj h)
  · exact h₁
  · exact h₂.trans (sectionFrame_log _ _)
  · exact h₂

theorem initializeBody_sectionFrame {driver : Driver} {ok : Bool} {s s' : EglState} {a : Nat}
    {r : Bool × Option (Int × Int)} (h : initializeBody driver ok s a = .ok (s', r)) :
    SectionFrame s s' := by
  obtain ⟨d, hread, h⟩ := except_bind_eq_ok.1 h
  have hd := (s.readDisplay_eq_ok.1 hread).2
  by_cases hi : 0 < d.initCount
  · rw [if_pos hi] at h
    obtain ⟨dd, -, h⟩ := except_bind_eq_ok.1 h
    cases (Except.ok.inj h)
    split
    exacts [(SectionFrame.refl s).setInitCount hd _, .refl s]
  rw [if_neg hi] at h
  obtain ⟨⟨s₁, ok₁⟩, hinit, h⟩ := except_bind_eq_ok.1 h
  have h₁ := wlInternalInitialize_sectionFrame hinit
  have h₂ := h₁.setInitCount hd 1
  dsimp only at h
  by_cases hok : ok₁ = true
  · rw [if_pos hok] at h
    by_cases hc : ok = true
    · rw [if_pos hc] at h
      obtain ⟨dd, -, h⟩ := except_bind_eq_ok.1 h
      cases (Except.ok.inj h)
      exact h₂
    · rw [if_neg hc] at h
      obtain ⟨⟨s₃, _⟩, hterm, h⟩ := except_bind_eq_ok.1 h
      cases (Except.ok.inj h)
      exact (h₂.trans (terminateDisplay_sectionFrame hterm)).trans (sectionFrame_log _ _)
  · rw [if_neg hok] at h
    cases (Except.ok.inj h)
    exact h₁

theorem queryDisplayAttribBody_sectionFrame {driver : Driver} {name : Int} {valueGiven : Bool}
    {s s' : EglState} {a : Nat} {r : Bool × Option Int}
    (h : queryDisplayAttribBody driver name valueGiven s a = .ok (s', r)) :
    SectionFrame s s' := by
  obtain ⟨d, -, h⟩ := except_bind_eq_ok.1 h
  split_ifs at h
  · cases (Except.ok.inj h)
    exact sectionFrame_log s _
  · cases (Except.ok.inj h)
    exact sectionFrame_log s _
  · obtain ⟨dd, -, h⟩ := except_bind_eq_ok.1 h
    cases (Except.ok.inj h)
    exact .refl s
  · cases (Except.ok.inj h)
    exact .refl s
  · cases (Except.ok.inj h)
    exact .refl s
  · obtain ⟨dd, -, h⟩ := except_bind_eq_ok.1 h
    split at h <;> cases (Except.ok.inj h) <;> exact .refl s

theorem Hook.body_sectionFrame {driver : Driver} {hook : Hook} {s s' : EglState} {a : Nat}
    {r : Bool} (h : hook.body driver s a = .ok (s', r)) : SectionFrame s s' := by
  cases hook with
  | initializeHook ok =>
      obtain ⟨⟨s₁, r₁⟩, h₁, h⟩ := except_map_eq_ok.1 h
      cases h
      exact initializeBody_sectionFrame h₁
  | terminateHook => exact terminateDisplay_sectionFrame h
  | queryDisplayAttribHook name valueGiven =>
      obtain ⟨⟨s₁, r₁⟩, h₁, h⟩ := except_map_eq_ok.1 h
      cases h
      exact queryDisplayAttribBody_sectionFrame h₁

theorem refLaw_body {sys sys' : Sys} {t : Nat} {driver : Driver} (hlaw : RefLaw sys)
    (hl : Linked sys.egl) (h : sys.step (.body t driver) = some (.ok sys')) :
    RefLaw sys' ∧ Linked sys'.egl := by
  obtain ⟨th, a, s, r, ht, hpc, hbody, rfl⟩ := Sys.step_body_eq_ok h
  have hf := Hook.body_sectionFrame hbody
  have hh : ∀ b, (sys.setThread s t th (.ran a r)).holders b = sys.holders b := fun b => by
    have := Sys.holders_setThread ht s (.ran a r) b
    simp only [hpc, HookPc.holds] at this
    omega
  refine ⟨⟨fun b d' hd' => ?_, fun b hb => ?_⟩, hf.linked hl⟩
  · obtain ⟨d, hd, hkey⟩ := map_eq_some_of_map_eq (hf.displays b).symm hd'
    simp only [Prod.mk.injEq] at hkey
    rw [← hkey.2.2, hlaw.count b d hd, hh]
    simp [EglState.directoryRef, hf.list, Sys.setThread]
  · rw [hh] at hb
    obtain ⟨hb0, d, hd⟩ := hlaw.held b hb
    obtain ⟨d', hd', -⟩ := map_eq_some_of_map_eq (hf.displays b) hd
    exact ⟨hb0, d', hd'⟩

/-!
# Acquire and release

On a directory of live displays, acquiring takes a reference on a listed display and returns
it, and on any other handle returns `0`.  The law carries over a step that moves the count and
the holders of one display alone.
-/

theorem isListed_of_live {s : EglState} {a : Nat} :
    ∀ {l : List Nat}, (∀ b ∈ l, b ≠ 0 ∧ ∃ d, s.displays b = some d) →
      isListed s a l = .ok (decide (a ∈ l))
  | [], _ => rfl
  | b :: rest, hlive => by
      obtain ⟨hb0, d, hd⟩ := hlive b (List.mem_cons_self _ _)
      have ih := @isListed_of_live s a rest fun c hc => hlive c (List.mem_cons_of_mem b hc)
      by_cases hba : b = a
      · simp [isListed, hba]
      · simp [isListed, hba, s.readDisplay_of_live hb0 hd, ih, Ne.symm hba]

theorem wlEglAcquireDisplay_live {s : EglState} (dpy : Nat)
    (hlive : ∀ b ∈ s.wlEglDisplayList, b ≠ 0 ∧ ∃ d, s.displays b = some d) :
    (∃ d, dpy ≠ 0 ∧ s.displays dpy = some d ∧
      wlEglAcquireDisplay s dpy = .ok (s.setDisplay dpy { d with refCount := d.refCount + 1 }, dpy)) ∨
    (dpy ∉ s.wlEglDisplayList ∧ wlEglAcquireDisplay s dpy = .ok (s, 0)) := by
  rw [wlEglAcquireDisplay, wlEglIsWlEglDisplay, isListed_of_live hlive, except_ok_bind]
  by_cases hm : dpy ∈ s.wlEglDisplayList
  · obtain ⟨hne, d, hd⟩ := hlive dpy hm
    rw [if_pos (decide_eq_true hm), s.readDisplay_of_live hne hd]
    exact .inl ⟨d, hne, hd, rfl⟩
  · rw [if_neg (by simpa using hm)]
    exact .inr ⟨hm, rfl⟩

theorem RefLaw.of_single {sys sys' : Sys} {a : Nat} (h : RefLaw sys)
    (hlist : sys'.egl.wlEglDisplayList = sys.egl.wlEglDisplayList)
    (hother : ∀ b, b ≠ a → sys'.egl.displays b = sys.egl.displays b ∧ sys'.holders b = sys.holders b)
    (hcount : ∀ d', sys'.egl.displays a = some d' →
      d'.refCount = ((sys.egl.directoryRef a + sys'.holders a : Nat) : Int))
    (hheld : 0 < sys'.holders a → a ≠ 0 ∧ ∃ d, sys'.egl.displays a = some d) : RefLaw sys' := by
  have hdir : sys'.egl.directoryRef = sys.egl.directoryRef := by
    funext b
    simp [EglState.directoryRef, hlist]
  refine ⟨fun b d' hd' => ?_, fun b hb => ?_⟩ <;> by_cases hba : b = a
  · subst hba
    rw [hdir]
    exact hcount d' hd'
  · obtain ⟨hd, hh⟩ := hother b hba
    rw [hd] at hd'
    rw [h.count b d' hd', hdir, hh]
  · subst hba
    exact hheld hb
  · obtain ⟨hd, hh⟩ := hother b hba
    rw [hd]
    exact h.held b (hh ▸ hb)

theorem Linked.of_single {s s' : EglState} {a : Nat} (hl : Linked s)
    (hlist : s'.wlEglDisplayList = s.wlEglDisplayList) (hdevs : s'.devDpys = s.devDpys)
    (hdl : s'.deviceDpyList = s.deviceDpyList) (hother : ∀ b, b ≠ a → s'.displays b = s.displays b)
    (hat : a ∈ s.wlEglDisplayList → ∀ d, s.displays a = some d →
      ∃ d', s'.displays a = some d' ∧ d'.data = d.data ∧ d'.devDpy = d.devDpy) : Linked s' :=
  hl.of_frame hlist
    (fun b hb db hdb => by
      by_cases hba : b = a
      · subst hba
        exact hat hb db hdb
      · exact ⟨db, (hother b hba).trans hdb, rfl, rfl⟩)
    (fun e dd hdd => ⟨dd, hdevs ▸ hdd, rfl⟩) hdl

theorem refLaw_acquire {sys sys' : Sys} {t : Nat} (hlaw : RefLaw sys) (hl : Linked sys.egl)
    (h : sys.step (.acquire t) = some (.ok sys')) : RefLaw sys' ∧ Linked sys'.egl := by
  obtain ⟨th, s, r, ht, hpc, hacq, rfl⟩ := Sys.step_acquire_eq_ok h
  have hh := Sys.holders_setThread ht s (if r = 0 then .done false else .acquired r)
  simp only [hpc, HookPc.holds, Bool.false_eq_true, ↓reduceIte, Nat.add_zero] at hh
  rcases wlEglAcquireDisplay_live th.dpy (fun b hb => hl.wellFormed.listed_live b hb) with
    ⟨d, hne, hd, hx⟩ | ⟨-, hx⟩ <;> rw [hx] at hacq <;> cases hacq
  · -- the thread now holds `th.dpy`, whose count went up by one
    simp only [hne, ↓reduceIte, HookPc.holds, beq_iff_eq] at hh ⊢
    have hother : ∀ b, b ≠ th.dpy →
        (sys.egl.setDisplay th.dpy { d with refCount := d.refCount + 1 }).displays b =
          sys.egl.displays b := fun b hb => Function.update_noteq hb _ _
    refine ⟨hlaw.of_single rfl (fun b hb => ⟨hother b hb, by simpa [Ne.symm hb] using hh b⟩)
      (fun d' hd' => ?_) (fun _ => ⟨hne, _, Function.update_same _ _ _⟩),
      hl.of_single rfl rfl rfl hother fun _ db hdb => ?_⟩
    · simp only [Sys.setThread_egl, setDisplay_displays, Function.update_same,
        Option.some.injEq] at hd'
      subst hd'
      have := hh th.dpy
      have hc := hlaw.count _ d hd
      simp only [↓reduceIte] at this
      show d.refCount + 1 = _
      omega
    · obtain rfl : db = d := Option.some.inj (hdb.symm.trans hd)
      exact ⟨_, Function.update_same _ _ _, rfl, rfl⟩
  · -- the handle is not listed: nothing moves
    rw [if_pos rfl]
    simp only [↓reduceIte, HookPc.holds, Bool.false_eq_true, Nat.add_zero] at hh
    refine ⟨⟨fun b d hd => ?_, fun b hb => hlaw.held b (hh b ▸ hb)⟩, hl⟩
    rw [hlaw.count b d hd, hh]
    rfl

theorem refLaw_release {sys sys' : Sys} {t : Nat} (hlaw : RefLaw sys) (hl : Linked sys.egl)
    (h : sys.step (.release t) = some (.ok sys')) : RefLaw sys' ∧ Linked sys'.egl := by
  obtain ⟨th, a, r, s, ht, hpc, hrel, rfl⟩ := Sys.step_release_eq_ok h
  obtain ⟨d, ha, hd, hdisp, hlist, hdevs, hdl⟩ := wlEglUnrefDisplay_spec hrel
  have hh := Sys.holders_setThread ht s (.done r)
  simp only [hpc, HookPc.holds, beq_iff_eq, Bool.false_eq_true, ↓reduceIte, Nat.add_zero] at hh
  have hother : ∀ b, b ≠ a → s.displays b = sys.egl.displays b := fun b hb => by
    rw [hdisp, Function.update_noteq hb]
  -- the count `wlEglUnrefDisplay` leaves is what the law asks of the released display
  have hcount : d.refCount - 1 = ((sys.egl.directoryRef a +
      (sys.setThread s t th (.done r)).holders a : Nat) : Int) := by
    have := hh a
    rw [if_pos rfl] at this
    rw [hlaw.count a d hd]
    omega
  have hkept : sys.egl.directoryRef a + (sys.setThread s t th (.done r)).holders a ≠ 0 →
      s.displays a = some { d with refCount := d.refCount - 1 } := fun hpos => by
    rw [hdisp, Function.update_same, unreffed_eq_some.2 ⟨by omega, rfl⟩]
  refine ⟨hlaw.of_single hlist (fun b hb => ⟨hother b hb, ?_⟩) (fun d' hd' => ?_)
    (fun hb => ⟨ha, _, hkept (by omega)⟩), hl.of_single hlist hdevs hdl hother fun hm db hdb => ?_⟩
  · have := hh b
    rw [if_neg (Ne.symm hb)] at this
    omega
  · rw [Sys.setThread_egl, hdisp, Function.update_same] at hd'
    obtain ⟨-, rfl⟩ := unreffed_eq_some.1 hd'
    exact hcount
  · obtain rfl : db = d := Option.some.inj (hdb.symm.trans hd)
    have hone : sys.egl.directoryRef a = 1 := by simp [EglState.directoryRef, hm]
    exact ⟨_, hkept (by omega), rfl, rfl⟩

/-!
# Global teardown

Global teardown keeps the links and the law: the displays of the torn-down platform data lose
the directory's reference with their place in it, and a display some hook holds survives with
`initCount = 0` and no device.
-/

theorem tornDown_eq_some {d d' : WlEglDisplay} (h : tornDown d = some d') :
    d.refCount - 1 ≠ 0 ∧ d'.refCount = d.refCount - 1 := by
  obtain ⟨hne, rfl⟩ := unreffed_eq_some.1 h
  exact ⟨hne, rfl⟩

theorem Linked.destroyAll {driver : Driver} {s s' : EglState} {P : Nat} {res : Bool}
    (hl : Linked s) (h : wlEglDestroyAllDisplays driver s P = .ok (s', res)) : Linked s' := by
  have hwf := hl.wellFormed
  obtain ⟨hleft, hframe, -, -⟩ := destroyAll_directory hwf.nodup (hwf.loopReady P) h
  obtain ⟨_, _, s'', -, -, h', -, hdl, -, -, hother⟩ := destroyAll_registry driver P hwf
  obtain ⟨rfl, -⟩ := Prod.mk.inj (Except.ok.inj (h'.symm.trans h))
  refine ⟨fun b hb => ?_, hleft ▸ hl.nodup.filter _, fun Q e he => ?_, fun Q => ?_⟩
  · rw [hleft, List.mem_filter] at hb
    have hnot : s.ownedBy P b = false := by simpa using hb.2
    obtain ⟨hb0, d, hd, hne, dd, hdd, hdata⟩ := hl.listed b hb.1
    have hdP : dd.data ≠ P := fun hP => by
      simp [EglState.ownedBy, hd, ← hdata, hP] at hnot
    exact ⟨hb0, d, (hframe b fun _ => hnot).trans hd, hne, dd, hother _ dd hdd hdP, hdata⟩
  · rw [hdl, Function.update_apply] at he
    split_ifs at he with hQ
    · simp at he
    · obtain ⟨he0, dd, hdd, hdata⟩ := hl.entries_live Q e he
      exact ⟨he0, dd, hother e dd hdd (by rw [hdata]; exact hQ), hdata⟩
  · rw [hdl, Function.update_apply]
    split_ifs
    exacts [List.nodup_nil, hl.entries_nodup Q]

theorem refLaw_destroyAll {sys sys' : Sys} {driver : Driver} {P : Nat} (hlaw : RefLaw sys)
    (hl : Linked sys.egl) (h : sys.step (.destroyAll driver P) = some (.ok sys')) :
    RefLaw sys' ∧ Linked sys'.egl := by
  obtain ⟨⟨s', res⟩, hdestroy, rfl⟩ := except_map_eq_ok.1 (Option.some.inj h)
  have hwf := hl.wellFormed
  obtain ⟨hleft, hframe, htorn, -⟩ := destroyAll_directory hwf.nodup (hwf.loopReady P) hdestroy
  refine ⟨?_, hl.destroyAll hdestroy⟩
  change RefLaw ⟨s', sys.threads⟩
  have hh : ∀ b, Sys.holders ⟨s', sys.threads⟩ b = sys.holders b := fun _ => rfl
  -- outside the listed displays of `P`, nothing the law reads moves
  have hdir : ∀ b, ¬(b ∈ sys.egl.wlEglDisplayList ∧ sys.egl.ownedBy P b = true) →
      s'.displays b = sys.egl.displays b ∧ s'.directoryRef b = sys.egl.directoryRef b := by
    intro b hb
    refine ⟨hframe b fun hm => by simpa [hm] using hb, ?_⟩
    by_cases hm : b ∈ sys.egl.wlEglDisplayList
    · simp [EglState.directoryRef, hleft, hm, show sys.egl.ownedBy P b = false by simpa [hm] using hb]
    · simp [EglState.directoryRef, hleft, hm]
  refine ⟨fun b d' hd' => ?_, fun b hb => ?_⟩
  · by_cases hb : b ∈ sys.egl.wlEglDisplayList ∧ sys.egl.ownedBy P b = true
    · obtain ⟨-, d, hd, -⟩ := hl.listed b hb.1
      rw [htorn b hb.1 hb.2, hd] at hd'
      obtain ⟨-, hr⟩ := tornDown_eq_some hd'
      have hc := hlaw.count b d hd
      have hgone : s'.directoryRef b = 0 := by simp [EglState.directoryRef, hleft, hb.2]
      simp only [EglState.directoryRef, hb.1, ↓reduceIte] at hc
      rw [hr, hc, hgone, hh]
      omega
    · obtain ⟨hsame, hdr⟩ := hdir b hb
      rw [hsame] at hd'
      rw [hlaw.count b d' hd', ← hdr]
      rfl
  · rw [hh] at hb
    obtain ⟨hb0, d, hd⟩ := hlaw.held b hb
    refine ⟨hb0, ?_⟩
    by_cases hm : b ∈ sys.egl.wlEglDisplayList ∧ sys.egl.ownedBy P b = true
    · have hc := hlaw.count b d hd
      simp only [EglState.directoryRef, hm.1, ↓reduceIte] at hc
      have hpos : d.refCount - 1 ≠ 0 := by omega
      refine ⟨{ d with initCount := 0, devDpy := 0, refCount := d.refCount - 1 }, ?_⟩
      rw [htorn b hm.1 hm.2, hd]
      exact unreffed_eq_some.2 ⟨hpos, rfl⟩
    · exact ⟨d, (hdir b hm).1.trans hd⟩

theorem initializeBody_of_cleared (driver : Driver) (ok : Bool) {s : EglState} {a : Nat}
    {d : WlEglDisplay} (ha : a ≠ 0) (hd : s.displays a = some d) (h0 : d.initCount = 0)
    (hdev : d.devDpy = 0) : initializeBody driver ok s a = .error .nullDeref := by
  simp [initializeBody, s.readDisplay_of_live ha hd, h0, hdev, wlInternalInitialize]

/-!
# Runs

A section that creates no display leaves no live display at count zero: a count only goes down
in a release or a teardown, and both keep the law.  While the law holds, acquiring and
releasing never fault.
-/

def Step.createsDisplay : Step → Bool
  | .getPlatformDisplay .. => true
  | _ => false

theorem refLaw_step {sys sys' : Sys} {st : Step} (hlaw : RefLaw sys) (hl : Linked sys.egl)
    (hst : st.createsDisplay = false) (h : sys.step st = some (.ok sys')) :
    RefLaw sys' ∧ Linked sys'.egl := by
  cases st with
  | getPlatformDisplay => cases hst
  | destroyAll driver P => exact refLaw_destroyAll hlaw hl h
  | acquire t => exact refLaw_acquire hlaw hl h
  | body t driver => exact refLaw_body hlaw hl h
  | release t => exact refLaw_release hlaw hl h

theorem countsPositive_step {sys sys' : Sys} {st : Step} (hl : Linked sys.egl)
    (hpos : CountsPositive sys.egl) (hst : st.createsDisplay = false)
    (h : sys.step st = some (.ok sys')) : CountsPositive sys'.egl := by
  cases st with
  | getPlatformDisplay => cases hst
  | destroyAll driver P =>
      obtain ⟨⟨s', res⟩, hdestroy, rfl⟩ := except_map_eq_ok.1 (Option.some.inj h)
      have hwf := hl.wellFormed
      obtain ⟨-, hframe, htorn, -⟩ := destroyAll_directory hwf.nodup (hwf.loopReady P) hdestroy
      intro b d' hd'
      by_cases hb : b ∈ sys.egl.wlEglDisplayList ∧ sys.egl.ownedBy P b = true
      · obtain ⟨-, d, hd, -⟩ := hl.listed b hb.1
        rw [htorn b hb.1 hb.2, hd] at hd'
        obtain ⟨hne, hr⟩ := tornDown_eq_some hd'
        have := hpos b d hd
        rw [hr]
        omega
      · exact hpos b d' ((hframe b fun hm => by simpa [hm] using hb).symm.trans hd')
  | acquire t =>
      obtain ⟨th, s, r, -, -, hacq, rfl⟩ := Sys.step_acquire_eq_ok h
      rcases wlEglAcquireDisplay_live th.dpy (fun b hb => hl.wellFormed.listed_live b hb) with
        ⟨d, -, hd, hx⟩ | ⟨-, hx⟩ <;> rw [hx] at hacq <;> cases hacq
      · intro b d' hd'
        by_cases hb : b = th.dpy
        · subst hb
          simp only [Sys.setThread_egl, setDisplay_displays, Function.update_same,
            Option.some.injEq] at hd'
          subst hd'
          have := hpos _ d hd
          show 0 < d.refCount + 1
          omega
        · exact hpos b d' (by simpa [hb] using hd')
      · exact hpos
  | body t driver =>
      obtain ⟨th, a, s, r, -, -, hbody, rfl⟩ := Sys.step_body_eq_ok h
      intro b d' hd'
      obtain ⟨d, hd, hkey⟩ := map_eq_some_of_map_eq ((Hook.body_sectionFrame hbody).displays b).symm hd'
      simp only [Prod.mk.injEq] at hkey
      rw [← hkey.2.2]
      exact hpos b d hd
  | release t =>
      obtain ⟨th, a, r, s, -, -, hrel, rfl⟩ := Sys.step_release_eq_ok h
      obtain ⟨d, -, hd, hdisp, -⟩ := wlEglUnrefDisplay_spec hrel
      intro b d' hd'
      rw [Sys.setThread_egl, hdisp] at hd'
      by_cases hb : b = a
      · subst hb
        rw [Function.update_same] at hd'
        obtain ⟨hne, rfl⟩ := unreffed_eq_some.1 hd'
        have := hpos b d hd
        show 0 < d.refCount - 1
        omega
      · rw [Function.update_noteq hb] at hd'
        exact hpos b d' hd'

/-- Every interleaving of hook sections and global teardowns that creates no display keeps
the reference law, the links of the directory, and a reference on every live display: a
display is freed exactly when its last reference goes. -/
theorem refLaw_run {sys sys' : Sys} {sched : List Step} (hlaw : RefLaw sys)
    (hl : Linked sys.egl) (href : Referenced sys) (hsched : ∀ st ∈ sched, st.createsDisplay = false)
    (h : sys.run sched = some (.ok sys')) : RefLaw sys' ∧ Linked sys'.egl ∧ Referenced sys' := by
  induction sched generalizing sys with
  | nil =>
      obtain rfl : sys = sys' := by simpa using h
      exact ⟨hlaw, hl, href⟩
  | cons st rest ih =>
      obtain ⟨sys₁, hst, hrest⟩ := Sys.run_cons_eq_ok h
      have hcreate := hsched st (List.mem_cons_self _ _)
      obtain ⟨hlaw₁, hl₁⟩ := refLaw_step hlaw hl hcreate hst
      have href₁ : Referenced sys₁ := hlaw₁.referenced_iff.2
        (countsPositive_step hl (hlaw.referenced_iff.1 href) hcreate hst)
      exact ih hlaw₁ hl₁ href₁ (fun st' h' => hsched st' (List.mem_cons_of_mem _ h')) hrest

def twoPlatformsHeld : Sys :=
  ⟨twoPlatforms, [⟨.initializeHook true, 1, .start⟩, ⟨.terminateHook, 3, .ran 3 true⟩]⟩

theorem refLaw_twoPlatformsHeld : RefLaw twoPlatformsHeld ∧ Linked twoPlatformsHeld.egl := by
  refine ⟨⟨fun a d hd => ?_, fun a ha => ?_⟩, ⟨fun a ha => ?_, by decide, fun p e he => ?_,
    fun p => ?_⟩⟩
  · simp only [twoPlatformsHeld, twoPlatforms] at hd
    split_ifs at hd with h1 h3 h4 <;> cases hd <;> subst_vars <;> decide
  · obtain rfl : 3 = a := by
      by_contra h3
      simp [twoPlatformsHeld, Sys.holders, HookPc.holds, h3] at ha
    exact ⟨by decide, _, rfl⟩
  · simp only [twoPlatformsHeld, twoPlatforms, List.mem_cons, List.mem_singleton,
      List.not_mem_nil, or_false] at ha
    rcases ha with rfl | rfl | rfl <;> exact ⟨by decide, _, rfl, by decide, _, rfl, rfl⟩
  · simp only [twoPlatformsHeld, twoPlatforms] at he ⊢
    split_ifs at he with h9 h8 <;> simp_all
  · simp only [twoPlatformsHeld, twoPlatforms]
    split_ifs <;> simp

def teardownUnderHooks : List Step :=
  [.acquire 0, .body 0 workingDriver, .destroyAll workingDriver 9, .release 0, .release 1]

theorem referenced_twoPlatformsHeld : Referenced twoPlatformsHeld := fun a ha => by
  have hm : a ∈ twoPlatforms.wlEglDisplayList := by
    simp only [twoPlatformsHeld, twoPlatforms] at ha
    split_ifs at ha <;> simp_all [twoPlatforms]
  have : twoPlatformsHeld.egl.directoryRef a = 1 := by simp [EglState.directoryRef, twoPlatformsHeld, hm]
  omega

theorem twoPlatformsHeld_teardown_keeps_refLaw :
    ∃ sys', twoPlatformsHeld.run teardownUnderHooks = some (.ok sys') ∧
      RefLaw sys' ∧ Linked sys'.egl ∧ Referenced sys' :=
  ⟨_, rfl, @refLaw_run twoPlatformsHeld _ teardownUnderHooks refLaw_twoPlatformsHeld.1
    refLaw_twoPlatformsHeld.2 referenced_twoPlatformsHeld (by decide) rfl⟩

theorem refLaw_acquire_release_ok {sys : Sys} {t : Nat} {th : HookThread} (hlaw : RefLaw sys)
    (hl : Linked sys.egl) (ht : sys.threads[t]? = some th) :
    (th.pc = .start → ∃ sys', sys.step (.acquire t) = some (.ok sys')) ∧
    (∀ a r, th.pc = .ran a r → ∃ sys', sys.step (.release t) = some (.ok sys')) := by
  refine ⟨fun hpc => ?_, fun a r hpc => ?_⟩
  · obtain ⟨x, hx⟩ : ∃ x, wlEglAcquireDisplay sys.egl th.dpy = .ok x := by
      rcases wlEglAcquireDisplay_live th.dpy fun b hb => hl.wellFormed.listed_live b hb with
        ⟨_, _, _, hx⟩ | ⟨_, hx⟩ <;> exact ⟨_, hx⟩
    exact ⟨_, by simp only [Sys.step, ht, Sys.threadStep, hpc, hx]; rfl⟩
  · have hheld : 0 < sys.holders a :=
      List.countP_pos_iff.2 ⟨th, List.getElem?_mem ht, by simp [hpc, HookPc.holds]⟩
    obtain ⟨ha, d, hd⟩ := hlaw.held a hheld
    obtain ⟨s, hs⟩ : ∃ s, wlEglReleaseDisplay sys.egl a = .ok s := by
      rw [wlEglReleaseDisplay, wlEglUnrefDisplay, sys.egl.readDisplay_of_live ha hd, except_ok_bind]
      split <;> exact ⟨_, rfl⟩
    exact ⟨_, by simp only [Sys.step, ht, Sys.threadStep, hpc, hs]; rfl⟩

theorem twoPlatformsHeld_acquire_release_ok :
    (∃ sys', twoPlatformsHeld.step (.acquire 0) = some (.ok sys')) ∧
    ∃ sys', twoPlatformsHeld.step (.release 1) = some (.ok sys') :=
  ⟨(@refLaw_acquire_release_ok twoPlatformsHeld 0 _ refLaw_twoPlatformsHeld.1
      refLaw_twoPlatformsHeld.2 rfl).1 rfl,
    (@refLaw_acquire_release_ok twoPlatformsHeld 1 _ refLaw_twoPlatformsHeld.1
      refLaw_twoPlatformsHeld.2 rfl).2 3 true rfl⟩

/-- Under the law, global teardown leaves every display of `P` that a hook holds alive with
`initCount = 0` and no device, so the initialize section such a hook runs next calls
`wlInternalInitialize(NULL)`. -/
theorem initializeBody_after_destroyAll {sys sys' : Sys} {driver : Driver} {P a : Nat}
    (hlaw : RefLaw sys) (hl : Linked sys.egl)
    (hdestroy : sys.step (.destroyAll driver P) = some (.ok sys'))
    (ha : a ∈ sys.egl.wlEglDisplayList) (hown : sys.egl.ownedBy P a = true)
    (hheld : 0 < sys.holders a) :
    (∃ d, sys'.egl.displays a = some d ∧ d.initCount = 0 ∧ d.devDpy = 0) ∧
      ∀ t th ok driver', sys'.threads[t]? = some th → th.hook = .initializeHook ok →
        th.pc = .acquired a → sys'.step (.body t driver') = some (.error .nullDeref) := by
  obtain ⟨⟨s', res⟩, hd, rfl⟩ := except_map_eq_ok.1 (Option.some.inj hdestroy)
  have hwf := hl.wellFormed
  obtain ⟨-, -, htorn, -⟩ := destroyAll_directory hwf.nodup (hwf.loopReady P) hd
  obtain ⟨ha0, d, hd₀, -⟩ := hl.listed a ha
  -- the directory's reference goes, the hook's keeps the count above zero
  have hc := hlaw.count a d hd₀
  simp only [EglState.directoryRef, ha, ↓reduceIte] at hc
  have hsurv : s'.displays a =
      some { d with initCount := 0, devDpy := 0, refCount := d.refCount - 1 } := by
    rw [htorn a ha hown, hd₀]
    refine unreffed_eq_some.2 ⟨?_, rfl⟩
    show d.refCount - 1 ≠ 0
    omega
  refine ⟨⟨_, hsurv, rfl, rfl⟩, fun t th ok driver' ht hhook hpc => ?_⟩
  simp only [Sys.step, ht, Sys.threadStep, hpc, hhook, Hook.body,
    initializeBody_of_cleared driver' ok ha0 hsurv rfl rfl]
  rfl

theorem twoPlatforms_held_display_faults :
    ∃ sys₁ sys₂, twoPlatformsHeld.step (.acquire 0) = some (.ok sys₁) ∧
      sys₁.step (.destroyAll workingDriver 9) = some (.ok sys₂) ∧
      (∃ d, sys₂.egl.displays 1 = some d ∧ d.initCount = 0 ∧ d.devDpy = 0) ∧
      sys₂.step (.body 0 workingDriver) = some (.error .nullDeref) :=
  have h₁ := refLaw_acquire refLaw_twoPlatformsHeld.1 refLaw_twoPlatformsHeld.2
    (show twoPlatformsHeld.step (.acquire 0) = some (.ok _) from rfl)
  have h := @initializeBody_after_destroyAll _ _ workingDriver 9 1 h₁.1 h₁.2 rfl (by decide) rfl
    (by decide)
  ⟨_, _, rfl, rfl, h.1, h.2 0 _ true workingDriver rfl rfl rfl⟩

/-!
# Creation

A creation that links a display leaves it without a reference for its place in the directory,
so after it the law fails, whatever held before.
-/

theorem getPlatformDisplay_breaks_refLaw {sys sys' : Sys} {env : CreateEnv}
    {data platform nativeDpy : Nat} {attribs : Option (List (Int × Int))}
    (h : sys.step (.getPlatformDisplay env data platform nativeDpy attribs) = some (.ok sys'))
    (hnew : sys'.egl.wlEglDisplayList ≠ sys.egl.wlEglDisplayList) : ¬ RefLaw sys' := by
  intro hlaw
  obtain ⟨⟨s', r⟩, hcall, rfl⟩ := except_map_eq_ok.1 (Option.some.inj h)
  rcases wlEglGetPlatformDisplayExport_cases hcall with ⟨hsame, -⟩ | ⟨u, dev, -, hcreate⟩
  · exact hnew hsame.list
  rcases createDisplay_spec hcreate with ⟨-, hsame⟩ | ⟨rfl, hlist, -, d, dd, hdisp, hkey, -, -⟩
  · exact hnew hsame.list
  have hc := hlaw.count sys.egl.nextAddr d (by simp [hdisp])
  rw [hkey.refCount] at hc
  simp [EglState.directoryRef, hlist] at hc
  omega

theorem createDefault_breaks_refLaw :
    ∃ sys', (freshProcess []).step createDefault = some (.ok sys') ∧
      sys'.egl.wlEglDisplayList ≠ (freshProcess []).egl.wlEglDisplayList ∧ ¬ RefLaw sys' :=
  ⟨_, rfl, by decide, @getPlatformDisplay_breaks_refLaw (freshProcess []) _ workingCompositor 9
    eglPlatformWaylandExt 0 none rfl (by decide)⟩

/-! # The hook that takes no reference -/

/-- `wlEglGetConfigAttribHook` takes no reference, so after a global teardown it faults on
the handle of every display the teardown removed: on freed storage when the teardown dropped
the last reference (a count of `1`), and otherwise on the `NULL` device connection of the
display that survived, one a hook holds or one created at count `0`, now at `-1`. -/
theorem getConfigAttrib_after_destroyAll (driver driver' : Driver) {s s' : EglState}
    {P a : Nat} {res : Bool} (hwf : WellFormed s)
    (hdestroy : wlEglDestroyAllDisplays driver s P = .ok (s', res))
    (ha : a ∈ s.wlEglDisplayList) (hown : s.ownedBy P a = true) (config : Nat) (attr : Int) :
    ∃ d, s.displays a = some d ∧ wlEglGetConfigAttribHook driver' s' a config attr =
      .error (if d.refCount = 1 then .useAfterFree else .nullDeref) := by
  obtain ⟨-, -, htorn, -⟩ := destroyAll_directory hwf.nodup (hwf.loopReady P) hdestroy
  obtain ⟨ha0, d, hd⟩ := hwf.listed_live a ha
  have hleft := htorn a ha hown
  rw [hd, Option.some_bind] at hleft
  refine ⟨d, hd, ?_⟩
  by_cases h1 : d.refCount = 1
  · have hfree : tornDown d = none := by simp [tornDown, unreffed, h1]
    simp [wlEglGetConfigAttribHook, EglState.readDisplay, ha0, hleft, hfree, h1]
  · have hkept : tornDown d =
        some { d with initCount := 0, devDpy := 0, refCount := d.refCount - 1 } :=
      unreffed_eq_some.2 ⟨show d.refCount - 1 ≠ 0 by omega, rfl⟩
    simp [wlEglGetConfigAttribHook, s'.readDisplay_of_live ha0 (hleft.trans hkept), h1]

theorem twoPlatforms_config_after_teardown :
    ∃ s' res, wlEglDestroyAllDisplays workingDriver twoPlatforms 9 = .ok (s', res) ∧
      wlEglGetConfigAttribHook workingDriver s' 1 7 eglSurfaceType = .error .useAfterFree ∧
      wlEglGetConfigAttribHook workingDriver s' 3 7 eglSurfaceType = .error .nullDeref := by
  obtain ⟨s', res, h⟩ : ∃ s' res, wlEglDestroyAllDisplays workingDriver twoPlatforms 9 =
      .ok (s', res) := ⟨_, _, rfl⟩
  obtain ⟨d₁, hd₁, h₁⟩ := @getConfigAttrib_after_destroyAll workingDriver workingDriver _ _ 9 1 _
    wellFormed_twoPlatforms h (by decide) rfl 7 eglSurfaceType
  obtain ⟨d₃, hd₃, h₃⟩ := @getConfigAttrib_after_destroyAll workingDriver workingDriver _ _ 9 3 _
    wellFormed_twoPlatforms h (by decide) rfl 7 eglSurfaceType
  cases hd₁
  cases hd₃
  exact ⟨s', res, h, h₁, h₃⟩

end Display
end EglWayland
