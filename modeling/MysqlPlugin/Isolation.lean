import MysqlPlugin.Locality
import MysqlPlugin.Passes

set_option autoImplicit false

/-! # A callback has its connection to itself

While `ProcessTick` runs a callback for a handle, `parsing` keeps the worker off the connection: all it
can still do for the handle is pop the query it has executed. So whatever the worker and the scripts
do meanwhile for other handles, the natives the callback calls on its own handle come to the same as
if they were called one after the other with nothing in between (`System.callback_isolated`). -/

namespace MysqlPlugin

open Prog Natives Mailbox

/-- The action is a call of a native on handle `h`. -/
def Action.concerns (h : ℕ) : Action → Bool
  | .native _ name _ params _ => decide (name.handle params = some (h : ℤ))
  | _ => false

namespace Slot

variable {h : ℕ} {a : Action} {v v' : Slot} {es : List Event}

/-- While a result is being delivered, a statement of the worker at most pops a query. -/
theorem worker_trails {lib : Answers} {src : ℕ} {o o' : MySQL} {stmt : WorkerStmt}
    {place : Option (ℕ × WorkerStmt)} {tick : Option (ℕ × TickStmt)} {b : ThreadInfo}
    (hs : Shakes o (some (src, stmt)) tick (.consuming b)) (hd : stmt.Does lib src o es o' place) :
    o'.Trails o := by
  obtain ⟨hflag, -, hprod, -⟩ := hs
  cases hd with
  | skip | report | returned | logResult => exact .refl o
  | copy q rest hq hp => exact absurd (hp.symm.trans hflag) (by simp [Phase.flag])
  | submit | answer | logExecuted | succeeded | failed | setParsing | push | clearParsing => cases hprod
  | pop q front rest hq =>
      refine ⟨rest, rfl, ?_⟩
      rw [hq, List.map_cons]
      exact List.suffix_cons _ _

/-- The other steps leave the object of the handle alone, unless they are calls on it. -/
theorem Step.trails {b : ThreadInfo} (hstep : Step h a v es v') (hf : v.Follows (.consuming b))
    (ha : a.isTick = false) (hother : a.concerns h = false) {o : MySQL} (ho : v.object = some o) :
    ∃ o', v'.object = some o' ∧ o'.Trails o := by
  cases hstep with
  | other _ _ hsame => exact ⟨o, hsame.object.trans ho, .refl o⟩
  | workerEnter lib ha o₁ t n => exact ⟨o, ho, .refl o⟩
  | worker lib ha o₁ o' src stmt place _ t n hd =>
      cases ho
      exact ⟨o', rfl, worker_trails hf hd⟩
  | tickEnter ha' | tick ha' =>
      subst ha'
      cases ha
  | native thread name amx params lib ha' hh =>
      subst ha'
      simp [Action.concerns, hh] at hother
  | opened => cases ho
  | closed thread amx params lib ha' hp hh =>
      subst ha'
      exact absurd hother (by simpa [Action.concerns, NativeName.handle, NativeName.handleAt] using hh)

end Slot

namespace System

variable {N : ℕ} {h : Fin N} {s s' u : System N} {tr es : List Event} {a : Action} {cs : List Action}

/-- What may go on while a callback for handle `h` runs: nothing closes the handle, and the error
    callbacks the worker runs keep off it. -/
structure Beside (h : Fin N) (s : System N) (a : Action) : Prop where
  quiet : (s.slot h).ClosesQuietly h a
  stays : a.isTick = false
  elsewhere : ∀ name amx params lib, a = .native .worker name amx params lib → a.concerns h = false

/-- A call on a handle does the same in another state that agrees on its object and on the scripts. -/
theorem native_along {name : NativeName} {data : Memory} {params : List Cell} {lib : Answers}
    (hhandle : name.handle params = some (h : ℤ)) (halong : Along h s.toWorld u.toWorld)
    (hscripts : s.pAmx = u.pAmx) (hruns : u.runsScripts .main = true)
    (hstep : s.step (.native .main name data params lib) = .next s' es) :
    ∃ w es', u.step (.native .main name data params lib) = .next { u with toWorld := w } es' ∧
      Along h s'.toWorld w ∧ s'.pAmx = w.pAmx ∧ List.Forall₂ Event.Twin es es' := by
  simp only [step, perform] at hstep
  split at hstep
  · split at hstep
    · cases hstep
    · rename_i hok
      cases hstep
      have hagree := function_local ⟨lib, s.pAmx⟩ data params hhandle
      obtain ⟨_, w, es', hok', -, halong', hes⟩ := hagree.of_ok halong hok
      have hkept := (effect_function ⟨lib, s.pAmx⟩ data params name _ _ _ _ hok).pAmx
      have hkept' := (effect_function ⟨lib, s.pAmx⟩ data params name _ _ _ _ hok').pAmx
      refine ⟨w, es', ?_, halong', hkept.trans (hscripts.trans hkept'.symm), hes⟩
      simp only [step, if_pos hruns, perform, ← hscripts, hok']
  · cases hstep

/-- The callback runs in both, and in the second with the natives on its handle alone. -/
structure Alone (h : Fin N) (m : MainPc N) (s u : System N) : Prop where
  object : Along h s.toWorld u.toWorld
  scripts : s.pAmx = u.pAmx
  here : s.main = m
  there : u.main = m
  phase : ∃ b, (s.slot h).Follows (.consuming b)

section Callback

variable {src : ℕ} {t : ThreadInfo} {amx : AMX} {scripts : List AMX}

theorem follows_in_callback (hf : ∃ p, (s.slot h).Follows p)
    (hm : s.main = .body h src (.inCallback t amx scripts)) (hobj : (s.my h).isSome = true) :
    ∃ b, (s.slot h).Follows (.consuming b) := by
  obtain ⟨p, hp⟩ := hf
  obtain ⟨o, ho⟩ := Option.isSome_iff_exists.1 hobj
  have hshakes : Slot.Shakes o (s.slot h).worker (s.slot h).tick p := by
    simpa only [Slot.Follows, slot, ho] using hp
  have hcons := hshakes.consumer
  rw [main_place hm] at hcons
  obtain ⟨b, rfl⟩ := Phase.eq_consuming hcons.symm
  exact ⟨b, hp⟩

/-- A step beside the callback leaves the delivery where it is. -/
theorem consuming_step (hf : ∃ b, (s.slot h).Follows (.consuming b)) (hbeside : s.Beside h a)
    (hm : s.main = .body h src (.inCallback t amx scripts)) (hstep : s.step a = .next s' es) :
    ∃ b, (s'.slot h).Follows (.consuming b) := by
  obtain ⟨b, hb⟩ := hf
  obtain ⟨hs, hslot⟩ := step_slot hstep h
  obtain ⟨p', hp, hp'⟩ := hslot.follows hbeside.quiet hb
  refine follows_in_callback ⟨p', hp'⟩ ((main_of_step hbeside.stays hstep).trans hm) ?_
  -- the phase of an empty slot is `free`, and that is not next
  by_contra hnone
  have hobj : (s'.slot h).object = none := Option.not_isSome_iff_eq_none.1 hnone
  simp only [Slot.Follows, hobj] at hp'
  obtain ⟨-, -, rfl⟩ := hp'
  obtain h | h := hp <;> cases h

/-- A call on the handle of the callback is repeated alone. -/
theorem alone_keep (hs : Alone h (.body h src (.inCallback t amx scripts)) s u) (hbeside : s.Beside h a)
    (ha : a.concerns h = true) (hstep : s.step a = .next s' es) :
    ∃ u' es', u.step a = .next u' es' ∧ Alone h (.body h src (.inCallback t amx scripts)) s' u' ∧
      List.Forall₂ Event.Twin es es' := by
  have hphase := consuming_step hs.phase hbeside hs.here hstep
  have hmain := main_of_step hbeside.stays hstep
  cases a with
  | worker | tick | load | unload => cases ha
  | native thread name amx' params lib =>
      cases thread with
      | worker => exact absurd ha (by simp [hbeside.elsewhere name amx' params lib rfl])
      | main =>
          have hruns : u.runsScripts .main = true := by rw [runsScripts, hs.there]
          obtain ⟨w, es', hstep', halong, hscripts, hes⟩ :=
            native_along (of_decide_eq_true ha) hs.object hs.scripts hruns hstep
          exact ⟨_, es', hstep', ⟨halong, hscripts, hmain.trans hs.here, hs.there, hphase⟩, hes⟩

/-- Every other step can be left out. -/
theorem alone_drop (hs : Alone h (.body h src (.inCallback t amx scripts)) s u) (hbeside : s.Beside h a)
    (ha : a.concerns h = false) (hstep : s.step a = .next s' es) :
    Alone h (.body h src (.inCallback t amx scripts)) s' u := by
  have hmain := main_of_step hbeside.stays hstep
  obtain ⟨b, hb⟩ := hs.phase
  obtain ⟨hs', hslot⟩ := step_slot hstep h
  refine ⟨?_, ?_, hmain.trans hs.here, hs.there, consuming_step hs.phase hbeside hs.here hstep⟩
  · cases hobj : s.my h with
    | none => simp [Slot.Follows, slot, hobj] at hb
    | some o =>
        obtain ⟨o', ho', htrails⟩ := hslot.trails hb hbeside.stays ha hobj
        obtain ⟨o'', ho'', htrails'⟩ := hs.object.object hobj
        exact along_of_trails ho' ho'' (htrails.trans htrails')
  · have hbusy : s.main ≠ .idle := by simp [hs.here]
    rw [pAmx_kept_of_step hbusy hstep]
    exact hs.scripts

/-- Along a path beside the callback, the natives on its handle do the same alone. -/
theorem alone_path (hs : Alone h (.body h src (.inCallback t amx scripts)) s u)
    (hpath : (plugin N).Path (Beside h) s cs es s') :
    ∃ u' es', (plugin N).exec (cs.filter (Action.concerns h)) u = some (u', es') ∧
      (∃ o o', s'.my h = some o ∧ u'.my h = some o' ∧ o.Trails o') ∧
      ∃ kept, kept.Sublist es ∧ List.Forall₂ Event.Twin kept es' := by
  obtain ⟨u', es', hexec, halone, hkept⟩ := hpath.exec_filter (P := Beside h)
    (J := Alone h (.body h src (.inCallback t amx scripts)))
    (fun _ _ _ _ _ hJ hP ha hstep => alone_keep hJ hP ha hstep)
    (fun _ _ _ _ _ hJ hP ha hstep => alone_drop hJ hP ha hstep) hs
  refine ⟨u', es', hexec, ?_, hkept⟩
  obtain ⟨b, hb⟩ := halone.phase
  cases hobj : s'.my h with
  | none => simp [Slot.Follows, slot, hobj] at hb
  | some o =>
      obtain ⟨o', ho', htrails⟩ := halone.object.object hobj
      exact ⟨o, o', rfl, ho', htrails⟩

/-- Where a callback starts. -/
theorem alone_reach (hrun : (plugin N).Reach (fun s a => (s.slot h).ClosesQuietly h a) tr s)
    (hm : s.main = .body h src (.inCallback t amx scripts)) :
    Alone h (.body h src (.inCallback t amx scripts)) s s := by
  obtain ⟨hs, hslot, -, -⟩ := slot_reach hrun
  have hfollows := Slot.follows_run (fun _ _ hP => hP) hslot
  obtain ⟨o, ho, -⟩ := tickSound_reach (hrun.mono fun _ _ hq => hq.2) src _ (main_place hm)
  exact ⟨along_of_trails ho ho (.refl o), rfl, hm, hm,
    follows_in_callback hfollows hm (Option.isSome_iff_exists.2 ⟨o, ho⟩)⟩

/-- **A callback runs in isolation**: however the worker's statements and the natives on other handles
    stand in between, the natives on its own handle come to the same as alone, one after the other. What
    differs is which queries the worker has popped, and the numbers of string buffers. -/
theorem callback_isolated
    (hrun : (plugin N).Reach (fun s a => (s.slot h).ClosesQuietly h a) tr s)
    (hm : s.main = .body h src (.inCallback t amx scripts))
    (hpath : (plugin N).Path (Beside h) s cs es s') :
    ∃ u es', (plugin N).exec (cs.filter (Action.concerns h)) s = some (u, es') ∧
      (∃ o o', s'.my h = some o ∧ u.my h = some o' ∧ o.Trails o') ∧
      ∃ kept, kept.Sublist es ∧ List.Forall₂ Event.Twin kept es' :=
  alone_path (alone_reach hrun hm) hpath

end Callback

/-- A statement with two rows is executed on handle 0, and its callback starts. -/
def upToCallback : List Action :=
  [.load ⟨0, ["OnMysqlQuery"]⟩, Script.mysql_init, Script.mysql_connect 0, Script.mysql_query 7 5 0] ++
    Script.work 10 { rows := some ⟨["id"], [[some "1"], [some "2"]]⟩ } ++ Script.ticks 4

def inCallback : System 2 × List Event :=
  ((plugin 2).exec upToCallback System.initial).getD (System.initial, [])

theorem reach_inCallback : (plugin 2).Reach (fun s a => (s.slot 0).ClosesQuietly (0 : Fin 2) a)
    inCallback.2 inCallback.1 := by
  have hexec : (plugin 2).exec upToCallback System.initial = some inCallback := rfl
  exact Machine.run_of_exec hexec (Machine.obeys_of_check (p := fun _ a => !a.isClose) rfl
    fun _ _ ha => Slot.closesQuietly_of_not_close (by simpa using ha))

/-- The callback stores the result and reads both rows; between its calls it opens another handle, and
    the worker goes on. -/
def whileReading : List Action :=
  [Script.mysql_store_result 0] ++ Script.work 2 ++
    [.native .main .mysql_fetch_row_data Script.memory [4, 0] {}, Script.mysql_init] ++ Script.work 1 ++
    [.native .main .mysql_fetch_string Script.memory [8, 0, 0] {}]

/-- Statements of the worker, and calls of a script on the main thread that close nothing. -/
def goesBeside : Action → Bool
  | .native .main name _ _ _ => name ≠ .mysql_close
  | .worker _ => true
  | _ => false

theorem beside_of_goesBeside {a : Action} (ha : goesBeside a = true) : s.Beside h a := by
  cases a with
  | native thread name amx params lib =>
      cases thread with
      | worker => cases ha
      | main =>
          refine ⟨Slot.closesQuietly_of_not_close ?_, rfl, fun _ _ _ _ hact => by cases hact⟩
          cases name <;> first | rfl | cases ha
  | worker lib =>
      exact ⟨Slot.closesQuietly_of_not_close rfl, rfl, fun _ _ _ _ hact => by cases hact⟩
  | tick | load | unload => cases ha

theorem path_whileReading :
    ∃ es s', (plugin 2).Path (Beside 0) inCallback.1 whileReading es s' := by
  have hexec : ((plugin 2).exec whileReading inCallback.1).isSome = true := rfl
  exact ⟨_, _, Machine.Path.of_exec (Option.some_get hexec).symm
    (Machine.obeys_of_check (p := fun _ a => goesBeside a) rfl fun _ _ => beside_of_goesBeside)⟩

theorem reading_isolated :
    ∃ (s' u : System 2) (o o' : MySQL) (es : List Event),
      (plugin 2).exec (whileReading.filter (Action.concerns 0)) inCallback.1 = some (u, es) ∧
        s'.my 0 = some o ∧ u.my 0 = some o' ∧ o.Trails o' := by
  obtain ⟨es, s', hpath⟩ := path_whileReading
  obtain ⟨u, es', hexec, ⟨o, o', ho, ho', htrails⟩, -⟩ :=
    callback_isolated (h := 0) reach_inCallback rfl hpath
  exact ⟨s', u, o, o', es', hexec, ho, ho', htrails⟩

end System
end MysqlPlugin
