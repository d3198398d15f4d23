import EglWayland.Display.Hooks

/-!
# Threads running the display hooks

Each in-flight hook is a thread with a program counter; the process-wide lock and the
display mutexes make each of its three sections atomic, so a run of the process is a
sequence of sections: a creation, a global teardown, or one section of one thread.  A
section that its thread is not ready for is not enabled, and a run that schedules one is
not a run (`none`).

The sections are those of `Display.Hooks`; running a thread's three sections one after
another is the hook itself (`run_hook_thread`).
-/

namespace EglWayland
namespace Display

open EglState

/-!
# Threads and sections

`Hook.body` is the section of a hook under the display's mutex, with its result, and
`threadStep` runs a thread's next section, given the thread and where it stands.
-/

/-- The hook a thread is running, with its arguments. -/
inductive Hook where
  | initializeHook (compositorOk : Bool)
  | terminateHook
  | queryDisplayAttribHook (name : Int) (valueGiven : Bool)

def Hook.body (driver : Driver) : Hook → EglState → Nat → Except Fault (EglState × Bool)
  | .initializeHook ok, s, a =>
      (initializeBody driver ok s a).map fun r => (r.1, r.2.1)
  | .terminateHook, s, a => terminateBody driver s a
  | .queryDisplayAttribHook name valueGiven, s, a =>
      (queryDisplayAttribBody driver name valueGiven s a).map fun r => (r.1, r.2.1)

inductive HookPc where
  | start
  | acquired (display : Nat)
  | ran (display : Nat) (ret : Bool)
  | done (ret : Bool)
  deriving DecidableEq, Repr

structure HookThread where
  hook : Hook
  dpy : Nat
  pc : HookPc

/-- The process: its heap, directory and registries, and the threads inside a hook. -/
structure Sys where
  egl : EglState
  threads : List HookThread

/-- One atomic section. -/
inductive Step where
  | getPlatformDisplay (env : CreateEnv) (data platform nativeDpy : Nat)
      (attribs : Option (List (Int × Int)))
  | destroyAll (driver : Driver) (data : Nat)
  | acquire (t : Nat)
  | body (t : Nat) (driver : Driver)
  | release (t : Nat)

namespace Sys

def setThread (sys : Sys) (s : EglState) (t : Nat) (th : HookThread) (pc : HookPc) : Sys :=
  ⟨s, sys.threads.set t { th with pc := pc }⟩

@[simp] theorem setThread_egl (sys : Sys) (s : EglState) (t : Nat) (th : HookThread) (pc : HookPc) :
    (sys.setThread s t th pc).egl = s := rfl

def threadStep (sys : Sys) (t : Nat) (th : HookThread) : Step → Option (Except Fault Sys)
  | .acquire _ => match th.pc with
      | .start => some <| (wlEglAcquireDisplay sys.egl th.dpy).map fun (s, a) =>
          sys.setThread s t th (if a = 0 then .done false else .acquired a)
      | _ => none
  | .body _ driver => match th.pc with
      | .acquired a => some <| (th.hook.body driver sys.egl a).map fun (s, r) =>
          sys.setThread s t th (.ran a r)
      | _ => none
  | .release _ => match th.pc with
      | .ran a r => some <| (wlEglReleaseDisplay sys.egl a).map fun s =>
          sys.setThread s t th (.done r)
      | _ => none
  | _ => none

def step (sys : Sys) : Step → Option (Except Fault Sys)
  | .getPlatformDisplay env data platform nativeDpy attribs =>
      some <| (wlEglGetPlatformDisplayExport env sys.egl data platform nativeDpy attribs).map
        fun r => { sys with egl := r.1 }
  | .destroyAll driver data =>
      some <| (wlEglDestroyAllDisplays driver sys.egl data).map fun r => { sys with egl := r.1 }
  | st@(.acquire t) | st@(.body t _) | st@(.release t) =>
      match sys.threads[t]? with
      | some th => sys.threadStep t th st
      | none => none

/-- A schedule of sections; a fault ends the run. -/
def run (sys : Sys) : List Step → Option (Except Fault Sys)
  | [] => some (.ok sys)
  | st :: rest =>
      match sys.step st with
      | some (.ok sys') => sys'.run rest
      | r => r

@[simp] theorem run_nil (sys : Sys) : sys.run [] = some (.ok sys) := rfl

theorem run_cons_of_ok {sys sys' : Sys} {st : Step} (rest : List Step)
    (h : sys.step st = some (.ok sys')) : sys.run (st :: rest) = sys'.run rest := by
  simp [run, h]

theorem run_cons_eq_ok {sys sys' : Sys} {st : Step} {rest : List Step}
    (h : sys.run (st :: rest) = some (.ok sys')) :
    ∃ sys₁, sys.step st = some (.ok sys₁) ∧ sys₁.run rest = some (.ok sys') := by
  rcases hst : sys.step st with _ | _ | sys₁ <;> simp only [run, hst] at h
  · cases h
  · cases h
  · exact ⟨sys₁, rfl, h⟩

/-! # What each section of a thread did -/

theorem step_acquire_eq_ok {sys sys' : Sys} {t : Nat} (h : sys.step (.acquire t) = some (.ok sys')) :
    ∃ th s a, sys.threads[t]? = some th ∧ th.pc = .start ∧
      wlEglAcquireDisplay sys.egl th.dpy = .ok (s, a) ∧
      sys' = sys.setThread s t th (if a = 0 then .done false else .acquired a) := by
  rcases ht : sys.threads[t]? with _ | th <;> simp only [step, ht] at h
  · cases h
  rcases hpc : th.pc with _ | _ | _ | _ <;> simp only [threadStep, hpc] at h <;> try cases h
  obtain ⟨⟨s, a⟩, hacq, rfl⟩ := except_map_eq_ok.1 (Option.some.inj h)
  exact ⟨th, s, a, rfl, hpc, hacq, rfl⟩

theorem step_body_eq_ok {sys sys' : Sys} {t : Nat} {driver : Driver}
    (h : sys.step (.body t driver) = some (.ok sys')) :
    ∃ th a s r, sys.threads[t]? = some th ∧ th.pc = .acquired a ∧
      th.hook.body driver sys.egl a = .ok (s, r) ∧ sys' = sys.setThread s t th (.ran a r) := by
  rcases ht : sys.threads[t]? with _ | th <;> simp only [step, ht] at h
  · cases h
  rcases hpc : th.pc with _ | a | _ | _ <;> simp only [threadStep, hpc] at h <;> try cases h
  obtain ⟨⟨s, r⟩, hbody, rfl⟩ := except_map_eq_ok.1 (Option.some.inj h)
  exact ⟨th, a, s, r, rfl, hpc, hbody, rfl⟩

theorem step_release_eq_ok {sys sys' : Sys} {t : Nat} (h : sys.step (.release t) = some (.ok sys')) :
    ∃ th a r s, sys.threads[t]? = some th ∧ th.pc = .ran a r ∧
      wlEglReleaseDisplay sys.egl a = .ok s ∧ sys' = sys.setThread s t th (.done r) := by
  rcases ht : sys.threads[t]? with _ | th <;> simp only [step, ht] at h
  · cases h
  rcases hpc : th.pc with _ | _ | ⟨a, r⟩ | _ <;> simp only [threadStep, hpc] at h <;> try cases h
  obtain ⟨s, hrel, rfl⟩ := except_map_eq_ok.1 (Option.some.inj h)
  exact ⟨th, a, r, s, rfl, hpc, hrel, rfl⟩

end Sys

/-- A thread's three sections in a row are its hook. -/
theorem run_hook_thread (driver : Driver) (sys : Sys) (t : Nat) (th : HookThread)
    (ht : sys.threads[t]? = some th) (hstart : th.pc = .start) {s' : EglState} {r : Bool}
    (hhook : runHook false (th.hook.body driver) sys.egl th.dpy = .ok (s', r))
    (hlisted : ∃ s₁, wlEglAcquireDisplay sys.egl th.dpy = .ok (s₁, th.dpy) ∧ th.dpy ≠ 0) :
    ∃ sys', sys.run [.acquire t, .body t driver, .release t] = some (.ok sys') ∧
      sys'.egl = s' ∧ sys'.threads[t]? = some { th with pc := .done r } := by
  obtain ⟨s₁, hacq, hne⟩ := hlisted
  simp only [runHook, hacq, except_ok_bind, hne, ↓reduceIte] at hhook
  obtain ⟨⟨s₂, r₂⟩, hbody, hrest⟩ := except_bind_eq_ok.1 hhook
  obtain ⟨s₃, hrel, hfin⟩ := except_bind_eq_ok.1 hrest
  obtain ⟨rfl, rfl⟩ : s' = s₃ ∧ r = r₂ := by simpa [eq_comm] using hfin
  have hlt : t < sys.threads.length := (List.getElem?_eq_some_iff.1 ht).1
  refine ⟨⟨s', ((sys.threads.set t { th with pc := .acquired th.dpy }).set t
    { th with pc := .ran th.dpy r }).set t { th with pc := .done r }⟩, ?_, rfl, ?_⟩
  · simp [Sys.run, Sys.step, ht, Sys.threadStep, hstart, hacq, hne, Sys.setThread, hbody,
      hrel, Except.map, List.getElem?_set, hlt]
  · simp [List.getElem?_set, hlt]

/-!
# Runs from a fresh process

`createDefault` is `eglGetPlatformDisplay(EGL_PLATFORM_WAYLAND_EXT, NULL, NULL)` on platform
data `9`.  After one successful `eglInitialize` on a new display, the registry entry counts one
initialized display (`initializedDisplays`) while no listed display is left to account for it.
-/

/-- A driver whose calls all succeed, with configs that support EGLStreams and pbuffers. -/
def workingDriver : Driver :=
  ⟨fun _ => some (1, 5), fun _ => true, fun _ _ => none, fun _ _ _ => some 0x0801⟩

def createDefault : Step :=
  .getPlatformDisplay workingCompositor 9 eglPlatformWaylandExt 0 none

def freshProcess (threads : List HookThread) : Sys :=
  ⟨.init fun _ => true, threads⟩

/-- A new display holds no reference for its place in the directory.  One `eglTerminate`
frees it while it is still listed, and the next lookup reads the freed display; and a
global teardown right after creation unlinks it without freeing it, its count at `-1`. -/
theorem terminateHook_frees_listed_display :
    (∃ sys, (freshProcess [⟨.terminateHook, 1, .start⟩]).run
        [createDefault, .acquire 0, .body 0 workingDriver, .release 0] = some (.ok sys) ∧
      sys.egl.wlEglDisplayList = [1] ∧ sys.egl.displays 1 = none ∧
      sys.run [createDefault] = some (.error .useAfterFree)) ∧
    ∃ sys, (freshProcess []).run [createDefault, .destroyAll workingDriver 9] = some (.ok sys) ∧
      sys.egl.wlEglDisplayList = [] ∧ (sys.egl.displays 1).map (·.refCount) = some (-1) :=
  ⟨⟨_, rfl, rfl, rfl, rfl⟩, _, rfl, rfl, rfl⟩

def initializedDisplays (s : EglState) (e : Nat) : Nat :=
  (s.wlEglDisplayList.filter fun a => match s.displays a with
    | some d => d.devDpy == e && 0 < d.initCount
    | none => false).length

theorem initializeHook_leaves_entry_count_unmatched :
    ∃ sys, (freshProcess [⟨.initializeHook true, 1, .start⟩]).run
        [createDefault, .acquire 0, .body 0 workingDriver, .release 0] = some (.ok sys) ∧
      (sys.egl.devDpys 2).map (·.initCount) = some 1 ∧ initializedDisplays sys.egl 2 = 0 ∧
      sys.egl.effects = [.close 5, .eglGetPlatformDisplay 0 true, .eglInitialize 50, .close 3] :=
  ⟨_, rfl, rfl, rfl, rfl⟩

/-- Two hooks acquire a display, a global teardown removes it and clears its `devDpy`,
and the first hook's section then calls `wlInternalInitialize(NULL)`. -/
theorem destroyAll_before_initializeBody_derefs_null :
    (freshProcess [⟨.initializeHook true, 1, .start⟩,
        ⟨.queryDisplayAttribHook eglDeviceExt true, 1, .start⟩]).run
      [createDefault, .acquire 0, .acquire 1, .destroyAll workingDriver 9,
        .body 0 workingDriver] = some (.error .nullDeref) :=
  rfl

end Display
end EglWayland
