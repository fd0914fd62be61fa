import MysqlPlugin.Statement

set_option autoImplicit false

/-! # The deeds of a step

`deeds` keeps of a trace what the history leaves out and somebody has to answer for: statements
handed to the client library, result sets and string buffers changing hands, callbacks of scripts.
For a native they are part of `World.Act`. Here are those of the two loops: a statement has at most
one deed, and which one can be read off the state it is executed in (`System.workerDeeds`,
`System.tickDeeds`). -/

namespace MysqlPlugin

open Prog Natives

/-! ## The statements of the two bodies -/

/-- The deed of a statement of `QueryThread`: it submits, and it deletes the text of the query. -/
def WorkerStmt.deeds (o : MySQL) : WorkerStmt → List Event
  | .submit _ => [.client o.conn "mysql_real_query"]
  | .pop q => [.delete q.query.ptr]
  | _ => []

/-- The buffer `SAFE_DELETE( mysqlThreadQueue.extraVars )` deletes after a callback. -/
def ThreadInfo.released (t : ThreadInfo) : List ℕ :=
  match t.type with
  | .TYPE_ARRAY => (t.extraVars.map CharPtr.ptr).toList
  | .TYPE_ID => []

/-- The deed of a statement of `ProcessTick`: it executes a callback, and it deletes the extra
    variables after one. -/
def TickStmt.deeds (handle : ℕ) : TickStmt → List Event
  | .each t (amx :: _) =>
    if amx.FindPublic t.type.callback then
      [.callback amx t.type.callback (t.args handle)]
    else []
  | .inCallback t _ _ => t.released.map .delete
  | _ => []

/-- A part that only tells, followed by a fixed result. -/
private theorem deeds_of_idle {α β : Type} {m : Method α} {b : β} {o o' : MySQL} {r : β}
    {es : List Event} (hm : Stays MySQL.Idle m) (hok : (m >>= fun _ => pure b) o = .ok (r, o', es)) :
    deeds es = [] := by
  obtain ⟨_, es₁, _, hret, rfl, hes⟩ := MySQL.idle_then hm hok
  cases hret
  simp [deeds_of_plain hes]

theorem QueryThread.statement_deeds {N : ℕ} {env : Env} {h : Fin N} {src : ℕ} {stmt : WorkerStmt}
    {o o' : MySQL} {pc : WorkerPc N} {es : List Event}
    (hok : statement env h src stmt o = .ok (pc, o', es)) : deeds es = stmt.deeds o := by
  have hlog : ∀ {line : MySQL → String} {b : WorkerPc N}, (do
      let this ← (get : Method MySQL)
      MySQL.logAll (line this)
      pure b) o = .ok (pc, o', es) → deeds es = [] := by
    intro line b hrun
    rw [get_bind] at hrun
    exact deeds_of_idle (MySQL.idle_logAll _) hrun
  cases stmt with
  | test => obtain ⟨-, ⟨-, -, rfl⟩ | ⟨q, rest, -, -, -, rfl⟩⟩ := test_eq_ok hok <;> rfl
  | submit q =>
      obtain ⟨_, o₁, es₁, _, hclient, hrest, rfl⟩ := bind_eq_ok.1 hok
      obtain ⟨rfl, -, rfl⟩ := MySQL.client_eq_ok hclient
      cases hrest
      rfl
  | executing q conn =>
      cases hok
      rfl
  | branch q =>
      simp only [statement] at hok
      rw [get_bind] at hok
      split at hok <;> cases hok <;> rfl
  | setParsing q t | push q t | clearParsing q =>
      cases hok
      rfl
  | callError q =>
      simp only [statement] at hok
      rw [get_bind] at hok
      obtain ⟨es', hrest, rfl⟩ := emit_bind_eq_ok.1 hok
      rw [deeds_cons, deeds_of_idle (MySQL.idle_Error _ _ _) hrest]
      rfl
  | logExecuted q | inError q | logResult q => exact hlog hok
  | pop q =>
      obtain ⟨front, rest, -, -, -, rfl⟩ := pop_eq_ok hok
      rfl

theorem ProcessTick.statement_deeds {N : ℕ} {pAmx : List AMX} {h : Fin N} {src : ℕ}
    {stmt : TickStmt} {w w' : World N} {pc : MainPc N} {es : List Event}
    (hok : statement pAmx h src stmt w = .ok (pc, w', es)) : deeds es = stmt.deeds h := by
  cases stmt with
  | test =>
      obtain ⟨o, o', -, hm, -⟩ := call_eq_ok.1 hok
      obtain ⟨-, ⟨-, -, rfl⟩ | ⟨t, rest, -, -, -, rfl⟩⟩ := test_eq_ok hm <;> rfl
  | each t scripts =>
      cases scripts with
      | nil =>
          cases hok
          rfl
      | cons amx scripts =>
          simp only [statement] at hok
          by_cases hf : amx.FindPublic t.type.callback = true
          · rw [if_pos hf] at hok
            cases hok
            rw [TickStmt.deeds, if_pos hf]
            cases ht : t.type <;> rfl
          · rw [if_neg hf] at hok
            cases hok
            rw [TickStmt.deeds, if_neg hf]
            rfl
  | inCallback t amx scripts =>
      obtain ⟨o, o', -, hm, -⟩ := call_eq_ok.1 hok
      obtain ⟨_, es₁, _, hrest, rfl, hes⟩ := MySQL.idle_then (MySQL.idle_logAll _) hm
      obtain ⟨_, o₁, es₂, _, hrel, hret, rfl⟩ := bind_eq_ok.1 hrest
      cases hret
      have hreleased : deeds es₂ = t.released.map .delete := by
        unfold releaseVars at hrel
        unfold ThreadInfo.released
        cases ht : t.type with
        | TYPE_ID =>
            rw [ht] at hrel
            cases hrel
            rfl
        | TYPE_ARRAY =>
            cases hv : t.extraVars with
            | none =>
                rw [ht, hv] at hrel
                cases hrel
                rfl
            | some v =>
                rw [ht, hv] at hrel
                cases hrel
                rfl
      simp [deeds_of_plain hes, hreleased, TickStmt.deeds]
  | pop t =>
      obtain ⟨o, o', -, hm, -⟩ := call_eq_ok.1 hok
      obtain ⟨front, rest, -, -, -, rfl⟩ := popEntry_eq_ok hm
      rfl
  | clear t =>
      change call h (clearParsing h) w = _ at hok
      obtain ⟨o, o', -, hm, -⟩ := call_eq_ok.1 hok
      cases hm
      rfl

/-! ## The steps of the two loops -/

namespace System

variable {N : ℕ} {s s' : System N} {es : List Event}

/-- The deed of the worker's next step. -/
def workerDeeds (s : System N) : List Event :=
  match s.worker with
  | .scan _ => []
  | .body h _ stmt => ((s.my h).map fun o => stmt.deeds o).getD []

/-- The deed of the next step of `ProcessTick`. -/
def tickDeeds (s : System N) : List Event :=
  match s.main with
  | .idle | .scan _ => []
  | .body h _ stmt => stmt.deeds h

theorem deeds_of_stepWorker {lib : Answers} (hstep : s.stepWorker lib = .next s' es) :
    deeds es = s.workerDeeds := by
  unfold stepWorker at hstep
  unfold workerDeeds
  cases hw : s.worker with
  | scan i =>
      rw [hw] at hstep
      simp only at hstep
      split at hstep
      · split at hstep <;> cases hstep <;> rfl
      · simp at hstep
  | body k src stmt =>
      simp only [hw, perform] at hstep
      split at hstep
      · simp at hstep
      · rename_i pc w es' hc
        cases hstep
        obtain ⟨o, o', ho, hok, -⟩ := call_eq_ok.1 hc
        rw [QueryThread.statement_deeds hok]
        simp [ho]

theorem deeds_of_stepTick (hstep : s.stepTick = .next s' es) : deeds es = s.tickDeeds := by
  unfold stepTick at hstep
  unfold tickDeeds
  cases hm : s.main with
  | idle =>
      rw [hm] at hstep
      cases hstep
      rfl
  | scan i =>
      rw [hm] at hstep
      simp only at hstep
      split at hstep
      · split at hstep <;> cases hstep <;> rfl
      · simp at hstep
  | body k src stmt =>
      simp only [hm, perform] at hstep
      split at hstep
      · simp at hstep
      · rename_i pc w es' hc
        cases hstep
        exact ProcessTick.statement_deeds hc

/-- What a step of the plugin does, with its deeds. -/
inductive Acts (s : System N) : Action → List Event → System N → Prop
  | worker (lib : Answers) (es : List Event) (s' : System N) (hm : s.WorkerMove lib es s')
      (hd : deeds es = s.workerDeeds) : Acts s (.worker lib) es s'
  | tick (es : List Event) (s' : System N) (hm : s.TickMove es s') (hd : deeds es = s.tickDeeds) :
      Acts s .tick es s'
  | native (thread : Thread) (name : NativeName) (amx : Memory) (params : List Cell) (lib : Answers)
      (hr : s.runsScripts thread = true) (r : Cell) (w : World N) (es : List Event)
      (hok : name.function ⟨lib, s.pAmx⟩ amx params s.toWorld = .ok (r, w, es)) :
      Acts s (.native thread name amx params lib) es { s with toWorld := w }
  | load (amx : AMX) (hm : s.main = .idle) : Acts s (.load amx) [] { s with pAmx := s.pAmx ++ [amx] }
  | unload (amx : AMX) (hm : s.main = .idle) :
      Acts s (.unload amx) [] { s with pAmx := s.pAmx.erase amx }

theorem step_acts {a : Action} (hstep : s.step a = .next s' es) : s.Acts a es s' := by
  cases a with
  | worker lib => exact .worker lib es s' (workerMove_of_step hstep) (deeds_of_stepWorker hstep)
  | tick => exact .tick es s' (tickMove_of_step hstep) (deeds_of_stepTick hstep)
  | native thread name amx params lib =>
      simp only [step] at hstep
      by_cases hr : s.runsScripts thread = true
      · rw [if_pos hr] at hstep
        unfold perform at hstep
        cases hok : name.function ⟨lib, s.pAmx⟩ amx params s.toWorld with
        | error f =>
            rw [hok] at hstep
            simp at hstep
        | ok r =>
            obtain ⟨r, w, es'⟩ := r
            rw [hok] at hstep
            cases hstep
            exact .native thread name amx params lib hr r w es hok
      · rw [if_neg hr] at hstep
        simp at hstep
  | load amx =>
      simp only [step] at hstep
      by_cases hm : s.main = .idle
      · rw [if_pos hm] at hstep
        cases hstep
        exact .load amx hm
      · rw [if_neg hm] at hstep
        simp at hstep
  | unload amx =>
      simp only [step] at hstep
      by_cases hm : s.main = .idle
      · rw [if_pos hm] at hstep
        cases hstep
        exact .unload amx hm
      · rw [if_neg hm] at hstep
        simp at hstep

end System
end MysqlPlugin
