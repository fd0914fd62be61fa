import MysqlPlugin.Deeds

set_option autoImplicit false

/-! # What one delivery tells the scripts

`ProcessTick` goes through the scripts with a local copy of the entry and executes the callback of
every script that defines it. What it executes is a function of the copy and the scripts
(`ThreadInfo.deliver`), whatever natives and worker steps come between (`System.deliveries_run`). For
an entry of `mysql_query_array` the copy loses its extra variables after the first callback, so the
scripts are all told the same exactly if there is at most one to tell
(`System.told_the_same_iff`). -/

namespace MysqlPlugin

open Prog Natives

/-! ## Callbacks in a trace -/

/-- A callback of `ProcessTick`; those of `Error` are the others. -/
def Event.isDelivery : Event → Bool
  | .callback _ callee _ => callee ≠ "OnMysqlError"
  | _ => false

/-- The callbacks of `ProcessTick` in a trace. -/
def deliveries (tr : List Event) : List Event := tr.filter Event.isDelivery

@[simp] theorem deliveries_nil : deliveries [] = [] := rfl

@[simp] theorem deliveries_append (tr tr' : List Event) :
    deliveries (tr ++ tr') = deliveries tr ++ deliveries tr' := List.filter_append ..

/-- They are deeds. -/
theorem deliveries_deeds (tr : List Event) : deliveries (deeds tr) = deliveries tr := by
  unfold deliveries deeds
  rw [List.filter_filter]
  refine List.filter_congr fun e _ => ?_
  cases e <;> simp [Event.isDelivery, Event.isPlain, Event.isHistory, Event.about]

theorem deliveries_of_plain {es : List Event} (h : Plain es) : deliveries es = [] := by
  rw [← deliveries_deeds, deeds_of_plain h]
  rfl

theorem deliveries_of_strings {es : List Event} (h : OnStrings es) : deliveries es = [] := by
  refine List.filter_eq_nil_iff.2 fun e he => ?_
  have hstring := h e he
  cases e <;> simp_all [Event.isString, Event.isDelivery]

@[simp] theorem MySQL.deliveries_freedEvents (o : MySQL) : deliveries o.freedEvents = [] := by
  unfold freedEvents
  split <;> rfl

theorem MySQL.Act.deliveries {name : NativeName} {params : List Cell} {lib : Answers} {o o' : MySQL}
    {es : List Event} (h : o.Act name params lib es o') : MysqlPlugin.deliveries es = [] := by
  cases h with
  | read h => exact deliveries_of_plain h.plain
  | connected hn es' hs hp =>
      subst hs
      have htail : MysqlPlugin.deliveries es' = [] := deliveries_of_plain hp
      exact htail
  | accepted q hn hr hmysql hs =>
      subst hs
      simp
      rfl
  | executed q hn hr hs hd =>
      rw [← deliveries_deeds, hd]
      simp [executedDeeds]
      rfl
  | stored hn hres hstate hs hd =>
      rw [← deliveries_deeds, hd, storedDeeds]
      cases o.mysql.bind (·.storeResult lib) <;> rfl
  | freed hn hs hd =>
      rw [← deliveries_deeds, hd, deliveries_freedEvents]

/-- No native executes one. -/
theorem World.Act.deliveries {N : ℕ} {name : NativeName} {params : List Cell} {lib : Answers}
    {w w' : World N} {es : List Event} (h : w.Act name params lib es w') :
    MysqlPlugin.deliveries es = [] := by
  cases h with
  | told hmy hp => exact deliveries_of_plain hp
  | object h o o' hh ho hmy pre mid post hes hpre hpost ha =>
      simp [hes, deliveries_of_strings hpre, deliveries_of_strings hpost, ha.deliveries]
  | opened h env henv hn hfree hcreated log print hmy es' hes hp =>
      have htail : MysqlPlugin.deliveries es' = [] := deliveries_of_plain hp
      rw [hes]
      exact htail
  | closed h o hn hp hh ho hconn hmy es' hes hes' =>
      have htail : MysqlPlugin.deliveries (o.freedEvents ++ es') = [] := by
        simp [deliveries_of_plain hes']
      rw [hes]
      exact htail

theorem WorkerStmt.deliveries (o : MySQL) (stmt : WorkerStmt) :
    MysqlPlugin.deliveries (stmt.deeds o) = [] := by
  cases stmt <;> rfl

/-! ## The loop over the scripts -/

/-- The callbacks the loop executes from the scripts on that are still to come. -/
def ThreadInfo.deliver (handle : ℕ) : List AMX → ThreadInfo → List Event
  | [], _ => []
  | amx :: scripts, t =>
    if amx.FindPublic t.type.callback then
      .callback amx t.type.callback (t.args handle) :: t.afterCallback.deliver handle scripts
    else t.deliver handle scripts

/-- A statement of the loop. -/
def TickStmt.inLoop : TickStmt → Bool
  | .each _ _ | .inCallback _ _ _ => true
  | _ => false

/-- The callbacks still to come from a statement of the loop on. -/
def TickStmt.toDeliver (handle : ℕ) : TickStmt → List Event
  | .each t scripts => t.deliver handle scripts
  | .inCallback t _ scripts => t.afterCallback.deliver handle scripts
  | _ => []

namespace System

variable {N : ℕ} {s s' : System N} {a : Action} {tr es : List Event} {h : Fin N}

/-- `ProcessTick` is in its loop over the scripts, for slot `h`. -/
def Delivering (s : System N) (h : Fin N) : Prop :=
  ∃ src stmt, s.main = .body h src stmt ∧ stmt.inLoop = true

/-- The callbacks `ProcessTick` is still to execute for the entry it delivers. -/
def toDeliver (s : System N) : List Event :=
  match s.main with
  | .body h _ stmt => stmt.toDeliver h
  | _ => []

/-- One step executes the callbacks that are no longer to come. -/
theorem deliveries_step (hd : s.Delivering h) (hstep : s.step a = .next s' es) :
    deliveries es ++ s'.toDeliver = s.toDeliver := by
  obtain ⟨src, stmt, hm, hloop⟩ := hd
  cases step_acts hstep with
  | worker lib _ _ hmove hdeeds =>
      have hmain : s'.main = s.main := by cases hmove <;> rfl
      have hnone : deliveries es = [] := by
        rw [← deliveries_deeds, hdeeds, workerDeeds]
        cases hw : s.worker with
        | scan i => rfl
        | body k src stmt => cases ho : s.my k <;> simp [ho, WorkerStmt.deliveries]
      simp [toDeliver, hmain, hnone]
  | tick _ _ hmove hdeeds =>
      have htodo : s.toDeliver = stmt.toDeliver h := by rw [toDeliver, hm]
      rw [tickDeeds, hm] at hdeeds
      rw [htodo, ← deliveries_deeds, hdeeds]
      cases hmove with
      | start hm' | finish i hm' | enter i o hm' => cases hm'.symm.trans hm
      | work k src' stmt' v place _ hm' hdoes =>
          cases hm'.symm.trans hm
          generalize s.my h = found, history es = told at hdoes
          cases hdoes with
          | skip | take | pop | clear => cases hloop
          | done => rfl
          | pass _ t amx scripts hf =>
              simp [TickStmt.deeds, toDeliver, MainPc.after, TickStmt.toDeliver, ThreadInfo.deliver,
                hf]
          | exec _ t amx scripts hf =>
              simp only [TickStmt.deeds, toDeliver, MainPc.after, TickStmt.toDeliver,
                ThreadInfo.deliver, if_pos hf]
              cases ht : t.type <;> rfl
          | returned o t amx scripts =>
              simp only [TickStmt.deeds, toDeliver, MainPc.after, TickStmt.toDeliver]
              unfold ThreadInfo.released
              cases ht : t.type with
              | TYPE_ID => rfl
              | TYPE_ARRAY => cases hv : t.extraVars <;> rfl
  | native thread name amx params lib hr r w _ hok =>
      obtain ⟨-, -, hact⟩ := performs_function _ amx params name _ _ _ _ hok
      rw [hact.deliveries]
      rfl
  | load amx hidle | unload amx hidle =>
      rw [hm] at hidle
      cases hidle

/-- What a run inside the loop has executed and what is still to come. -/
theorem deliveries_append_toDeliver (hrun : (plugin N).Run (fun s _ => s.Delivering h) s tr s') :
    deliveries tr ++ s'.toDeliver = s.toDeliver := by
  refine hrun.history (I := fun tr s' => deliveries tr ++ s'.toDeliver = s.toDeliver) ?_ rfl
  intro tr s₁ a es s₂ hI hd hstep
  rw [deliveries_append, List.append_assoc, deliveries_step hd hstep, hI]

/-- **What a delivery executes**: from a statement of the loop to the statement after the loop, the
    callbacks that were to come, whatever else happened in between. -/
theorem deliveries_run (hrun : (plugin N).Run (fun s _ => s.Delivering h) s tr s') {src : ℕ}
    {t : ThreadInfo} (hend : s'.main = .body h src (.pop t)) : deliveries tr = s.toDeliver := by
  have hnone : s'.toDeliver = [] := by
    rw [toDeliver, hend]
    rfl
  rw [← deliveries_append_toDeliver hrun, hnone, List.append_nil]

end System

/-! ## Who is told what -/

/-- The scripts that define a public function. -/
def defining (callee : String) (scripts : List AMX) : List AMX :=
  scripts.filter (·.FindPublic callee)

theorem defining_cons (callee : String) (amx : AMX) (scripts : List AMX) :
    defining callee (amx :: scripts) =
      if amx.FindPublic callee then amx :: defining callee scripts else defining callee scripts :=
  List.filter_cons

namespace ThreadInfo

/-- The callback of a script, with what is in the local copy now. -/
def callback (t : ThreadInfo) (handle : ℕ) (amx : AMX) : Event :=
  .callback amx t.type.callback (t.args handle)

/-- A copy that no callback changes is told to every script that defines the callback. -/
theorem deliver_eq_map {t : ThreadInfo} (hfix : t.afterCallback = t) (handle : ℕ)
    (scripts : List AMX) :
    t.deliver handle scripts = (defining t.type.callback scripts).map (t.callback handle) := by
  induction scripts with
  | nil => rfl
  | cons amx scripts ih =>
      rw [deliver, hfix, ih, defining_cons]
      by_cases hf : amx.FindPublic t.type.callback = true
      · rw [if_pos hf, if_pos hf]
        rfl
      · rw [if_neg hf, if_neg hf]

theorem afterCallback_afterCallback (t : ThreadInfo) :
    t.afterCallback.afterCallback = t.afterCallback := by
  unfold afterCallback
  cases ht : t.type <;> simp [ht]

theorem type_afterCallback (t : ThreadInfo) : t.afterCallback.type = t.type := by
  unfold afterCallback
  split <;> rfl

/-- The first script is told the copy, the others what a callback leaves of it. -/
theorem deliver_eq (t : ThreadInfo) (handle : ℕ) (scripts : List AMX) :
    t.deliver handle scripts =
      match defining t.type.callback scripts with
      | [] => []
      | amx :: others => t.callback handle amx :: others.map (t.afterCallback.callback handle) := by
  induction scripts with
  | nil => rfl
  | cons amx scripts ih =>
      rw [deliver, defining_cons]
      by_cases hf : amx.FindPublic t.type.callback = true
      · rw [if_pos hf, if_pos hf, deliver_eq_map (afterCallback_afterCallback t),
          type_afterCallback]
        rfl
      · rw [if_neg hf, if_neg hf, ih]

end ThreadInfo

namespace System

variable {N : ℕ} {s s' : System N} {tr : List Event} {h : Fin N}

/-- **When all scripts are told the same.** Right after an entry of `mysql_query_array` was copied, up
    to the end of the loop: every script that defines `OnMysqlQueryArray` is executed exactly once, in
    the order of the list, with the entry's `resultId` and text and with the handle, exactly if there
    is at most one such script. -/
theorem told_the_same_iff {t t' : ThreadInfo} {src src' : ℕ} {extraVars : CharPtr}
    (hstart : s.main = .body h src (.each t s.pAmx)) (htype : t.type = .TYPE_ARRAY)
    (hvars : t.extraVars = some extraVars)
    (hrun : (plugin N).Run (fun s _ => s.Delivering h) s tr s')
    (hend : s'.main = .body h src' (.pop t')) :
    deliveries tr = (defining "OnMysqlQueryArray" s.pAmx).map (fun amx =>
        .callback amx "OnMysqlQueryArray"
          [.cell t.resultId, .string (some extraVars.text), .cell h]) ↔
      (defining "OnMysqlQueryArray" s.pAmx).length ≤ 1 := by
  have hcallback : ∀ amx, t.callback h amx = .callback amx "OnMysqlQueryArray"
      [.cell t.resultId, .string (some extraVars.text), .cell h] := by
    intro amx
    simp [ThreadInfo.callback, ThreadInfo.args, htype, hvars, QueryType.callback]
  have hlater : ∀ amx, t.afterCallback.callback h amx ≠ t.callback h amx := by
    intro amx
    rw [hcallback]
    simp [ThreadInfo.callback, ThreadInfo.args, ThreadInfo.afterCallback, htype]
  rw [deliveries_run hrun hend, toDeliver, hstart]
  simp only [TickStmt.toDeliver, ← hcallback]
  rw [ThreadInfo.deliver_eq, htype]
  simp only [QueryType.callback]
  cases hd : defining "OnMysqlQueryArray" s.pAmx with
  | nil => simp
  | cons first others =>
      cases others with
      | nil => simp
      | cons second others =>
          refine iff_of_false (fun heq => hlater second ?_) (by simp)
          simp only [List.map_cons, List.cons.injEq] at heq
          exact heq.2.1

namespace Told

/-- Two scripts, each with or without the callback. -/
def scripts (first second : List String) : List AMX := [⟨0, first⟩, ⟨1, second⟩]

/-- The scripts are loaded, a threaded `mysql_query_array` is made and executed, and `ProcessTick` has
    copied its entry. -/
def intoLoop (scripts : List AMX) : List Action :=
  scripts.map .load ++ [Script.mysql_init, Script.mysql_connect 0,
    .native .main .mysql_query_array Script.memory [16, 0, 7, 0, 0] {}] ++ Script.work 8 ++
    Script.ticks 3

def copied (scripts : List AMX) : System 1 × List Event :=
  ((plugin 1).exec (intoLoop scripts) System.initial).getD (System.initial, [])

def isDelivering (s : System 1) (_ : Action) : Bool :=
  match s.main with
  | .body _ _ stmt => stmt.inLoop
  | _ => false

theorem delivering_of_isDelivering {s : System 1} {a : Action} (h : isDelivering s a = true) :
    s.Delivering 0 := by
  unfold isDelivering at h
  cases hm : s.main with
  | idle | scan => simp [hm] at h
  | body k src stmt =>
      rw [hm] at h
      exact ⟨src, stmt, by rw [hm, Subsingleton.elim k 0], h⟩

/-- Where the loop over the scripts ends, and what it executed. -/
def ended (scripts : List AMX) (n : ℕ) : System 1 × List Event :=
  ((plugin 1).exec (Script.ticks n) (copied scripts).1).getD ((copied scripts).1, [])

theorem one_script_told :
    deliveries (ended (scripts ["OnMysqlQueryArray"] []) 4).2 =
      [.callback ⟨0, ["OnMysqlQueryArray"]⟩ "OnMysqlQueryArray"
        [.cell 7, .string (some "S"), .cell 0]] := by
  have hrun := Machine.run_of_exec (M := plugin 1) (P := fun s _ => s.Delivering 0)
    (show (plugin 1).exec (Script.ticks 4) (copied (scripts ["OnMysqlQueryArray"] [])).1 =
      some (ended (scripts ["OnMysqlQueryArray"] []) 4) from rfl)
    (Machine.obeys_of_check (p := isDelivering) rfl fun _ _ => delivering_of_isDelivering)
  have hpAmx : (copied (scripts ["OnMysqlQueryArray"] [])).1.pAmx =
      scripts ["OnMysqlQueryArray"] [] := rfl
  have hstart : (copied (scripts ["OnMysqlQueryArray"] [])).1.main = .body 0 0 (.each
      ⟨7, none, some ⟨6, "S"⟩, .TYPE_ARRAY⟩ (copied (scripts ["OnMysqlQueryArray"] [])).1.pAmx) := by
    rw [hpAmx]
    rfl
  have hend : (ended (scripts ["OnMysqlQueryArray"] []) 4).1.main =
      .body 0 0 (.pop ⟨7, none, none, .TYPE_ARRAY⟩) := rfl
  exact (told_the_same_iff hstart rfl rfl hrun hend).2 (by decide)

/-- Two scripts define the callback: the second is told `NULL`. -/
theorem second_script_told_null :
    ¬ ∀ (N : ℕ) (tr₀ tr : List Event) (s s' : System N) (h : Fin N) (t t' : ThreadInfo)
      (src src' : ℕ) (extraVars : CharPtr), (plugin N).Reach (fun _ _ => True) tr₀ s →
      s.main = .body h src (.each t s.pAmx) → t.type = .TYPE_ARRAY →
      t.extraVars = some extraVars → (plugin N).Run (fun s _ => s.Delivering h) s tr s' →
      s'.main = .body h src' (.pop t') →
        deliveries tr = (defining "OnMysqlQueryArray" s.pAmx).map fun amx =>
          .callback amx "OnMysqlQueryArray"
            [.cell t.resultId, .string (some extraVars.text), .cell h] := by
  intro hall
  have hreach := Machine.run_of_exec (M := plugin 1) (P := fun _ _ => True)
    (show (plugin 1).exec (intoLoop (scripts ["OnMysqlQueryArray"] ["OnMysqlQueryArray"]))
      System.initial = some (copied (scripts ["OnMysqlQueryArray"] ["OnMysqlQueryArray"])) from rfl)
    (Machine.obeys_all _ _)
  have hrun := Machine.run_of_exec (M := plugin 1) (P := fun s _ => s.Delivering 0)
    (show (plugin 1).exec (Script.ticks 5) (copied (scripts ["OnMysqlQueryArray"]
      ["OnMysqlQueryArray"])).1 = some (ended (scripts ["OnMysqlQueryArray"]
      ["OnMysqlQueryArray"]) 5) from rfl)
    (Machine.obeys_of_check (p := isDelivering) rfl fun _ _ => delivering_of_isDelivering)
  have hpAmx : (copied (scripts ["OnMysqlQueryArray"] ["OnMysqlQueryArray"])).1.pAmx =
      scripts ["OnMysqlQueryArray"] ["OnMysqlQueryArray"] := rfl
  have hstart : (copied (scripts ["OnMysqlQueryArray"] ["OnMysqlQueryArray"])).1.main =
      .body 0 0 (.each ⟨7, none, some ⟨6, "S"⟩, .TYPE_ARRAY⟩
        (copied (scripts ["OnMysqlQueryArray"] ["OnMysqlQueryArray"])).1.pAmx) := by
    rw [hpAmx]
    rfl
  have hend : (ended (scripts ["OnMysqlQueryArray"] ["OnMysqlQueryArray"]) 5).1.main =
      .body 0 0 (.pop ⟨7, none, none, .TYPE_ARRAY⟩) := rfl
  have htold := hall 1 _ _ _ _ 0 _ _ 0 0 ⟨6, "S"⟩ hreach hstart rfl rfl hrun hend
  exact absurd htold (by decide)

end Told

end System
end MysqlPlugin
