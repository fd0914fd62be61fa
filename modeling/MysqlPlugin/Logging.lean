import MysqlPlugin.Lib.Schedule
import MysqlPlugin.Views
import MysqlPlugin.Thread

set_option autoImplicit false

/-! # The log settings

`mysql_init` takes the log type of a handle and whether its errors are printed. Whoever reads neither
the log nor the error messages on the console cannot tell what was asked for: with other settings, the
same calls and the same turns of the two threads are executed, up to the same point, and lead to the
same objects with the same events, the same callbacks among them (`System.logs_only_tell`).

What `mysql_connect` asks the library for its two log lines, the names of host and server, comes and
goes with these lines. -/

namespace MysqlPlugin

open Prog

/-- What the log settings decide about: a line of the log, an error message on the console, and what
    `connect` logs together with what it asks for that. -/
inductive Telling : List Event → Prop
  | logged (line : String) : Telling [.logged line]
  | printed (line : String) : Telling [.printed (errorPrefix ++ line)]
  | greeting (env : Env) (user : String) (o : MySQL) : Telling (o.greeting env user)

/-- The same events, but for what the log settings decide about. -/
abbrev ToldAlike : List Event → List Event → Prop := SameButFor Telling

theorem Option.eq_of_rel_eq {α : Type} {a b : Option α} (h : Option.Rel Eq a b) : a = b := by
  cases h with
  | none => rfl
  | some h => rw [h]

theorem QueryInfo.Alike.eq {q q' : QueryInfo} (h : QueryInfo.Alike Eq q q') : q = q' := by
  cases q
  cases q'
  simp only [QueryInfo.mk.injEq]
  exact ⟨h.query, h.resultId, h.extraId, Option.eq_of_rel_eq h.extraVars, h.type⟩

/-! ## Member functions -/

namespace MySQL

variable {α β : Type} {env : Env}

/-- The object with other log settings. -/
def Relogged (o o' : MySQL) : Prop := ∃ log print, o = { o' with logtype := log, printerrs := print }

theorem relogged_get_bind {f : MySQL → Method β}
    (hlog : ∀ o log print, f { o with logtype := log, printerrs := print } = f o)
    (hf : ∀ o, Steady ToldAlike Relogged (f o)) : Steady ToldAlike Relogged (get >>= f) := by
  refine .get_bind ?_
  rintro _ o ⟨log, print, rfl⟩
  rw [hlog]
  exact hf o

theorem relogged_modify {f : MySQL → MySQL}
    (hlog : ∀ o log print, f { o with logtype := log, printerrs := print } =
      { f o with logtype := log, printerrs := print }) :
    Steady ToldAlike Relogged (modify f : Method Unit) := by
  refine .modify ?_
  rintro _ o ⟨log, print, rfl⟩
  exact ⟨log, print, hlog o log print⟩

theorem relogged_emit (e : Event) : Steady ToldAlike Relogged (emit e : Method Unit) := .emit (.refl _)

/-- The member functions cannot tell the log settings, and what they tell does not show them. -/
theorem relogged_view : View ToldAlike Relogged Eq where
  event e := .refl [e]
  core := by
    rintro _ o ⟨log, print, rfl⟩
    rfl
  update := by
    rintro _ o c ⟨log, print, rfl⟩
    exact ⟨log, print, rfl⟩
  logged {_ _ line} p _ _ := by
    have htold : ToldAlike [.logged line] [] := .of_extra (.logged line)
    exact .doIf_emit (.refl _) htold htold.symm
  printed {_ _ line} _ := by
    have htold : ToldAlike [.printed (errorPrefix ++ line)] [] := .of_extra (.printed line)
    exact .doIf_emit (.refl _) htold htold.symm
  greeted {o _} env user _ := by
    have htold : ToldAlike (o.greeting env user) [] := .of_extra (.greeting env user o)
    split <;> split
    · rfl
    · exact htold
    · exact htold.symm
    · rfl
  enqueue {entry entry'} hentry := by
    rw [hentry.eq]
    exact relogged_get_bind (fun _ _ _ => rfl) fun o =>
      (relogged_emit _).bind_same fun _ => relogged_modify fun _ _ _ => rfl
  closed := by
    rintro _ o slot ⟨log, print, rfl⟩
    exact .refl _
  text h := congrArg CharPtr.text h
  deleted h := by rw [h]

theorem relogged_init (log log' : ℤ) (print print' : Bool) :
    Agree ToldAlike Relogged Eq (init env log print) (init env log' print') := by
  have hset : Agree ToldAlike Relogged Eq
      (modify fun this => { this with
        mysql := if env.lib.init then some MYSQL.fresh else none
        logtype := unsigned log
        printerrs := print } : Method Unit)
      (modify fun this => { this with
        mysql := if env.lib.init then some MYSQL.fresh else none
        logtype := unsigned log'
        printerrs := print' } : Method Unit) := by
    refine .modify ?_
    rintro _ o ⟨_, _, rfl⟩
    exact ⟨unsigned log, print, rfl⟩
  refine hset.bind_same fun _ => relogged_get_bind (fun _ _ _ => rfl) fun o => ?_
  refine (relogged_view.logAll _).bind_same fun _ => .ite (.pure rfl) ?_
  exact (relogged_view.Error _ _).bind_same fun _ => .pure rfl

end MySQL

open MySQL (Relogged relogged_view relogged_get_bind relogged_modify relogged_emit)

theorem QueryThread.relogged_statement {N : ℕ} (env : Env) (handle : Fin N) (src : ℕ)
    (stmt : WorkerStmt) : MySQL.Steady ToldAlike Relogged (statement env handle src stmt) := by
  cases stmt with
  | test =>
      refine relogged_get_bind (fun _ _ _ => rfl) fun o => (relogged_emit _).bind_same fun _ => ?_
      cases o.queryQueue with
      | nil => exact .pure rfl
      | cons q rest => exact .ite (.pure rfl) ((relogged_emit _).bind_same fun _ => .pure rfl)
  | submit q =>
      refine (relogged_view.client _).bind_same fun _ => relogged_get_bind (fun _ _ _ => rfl) fun o => ?_
      refine (relogged_emit _).bind_same fun _ => ?_
      exact (relogged_modify fun _ _ _ => rfl).bind_same fun _ => .pure rfl
  | executing q conn =>
      refine (relogged_emit _).bind_same fun _ => ?_
      exact (relogged_modify fun _ _ _ => rfl).bind_same fun _ => .pure rfl
  | logExecuted q =>
      exact relogged_get_bind (fun _ _ _ => rfl) fun o =>
        (relogged_view.logAll _).bind_same fun _ => .pure rfl
  | branch q => exact relogged_get_bind (fun _ _ _ => rfl) fun o => .ite (.pure rfl) (.pure rfl)
  | setParsing q t => exact (relogged_modify fun _ _ _ => rfl).bind_same fun _ => .pure rfl
  | push q t =>
      refine relogged_get_bind (fun _ _ _ => rfl) fun o => (relogged_emit _).bind_same fun _ => ?_
      exact (relogged_modify fun _ _ _ => rfl).bind_same fun _ => .pure rfl
  | clearParsing q => exact (relogged_modify fun _ _ _ => rfl).bind_same fun _ => .pure rfl
  | callError q =>
      refine relogged_get_bind (fun _ _ _ => rfl) fun o => (relogged_emit _).bind_same fun _ => ?_
      exact (relogged_view.Error _ _).bind_same fun _ => .pure rfl
  | inError q | logResult q =>
      exact relogged_get_bind (fun _ _ _ => rfl) fun o =>
        (relogged_view.logAll _).bind_same fun _ => .pure rfl
  | pop q =>
      refine (relogged_emit _).bind_same fun _ => relogged_get_bind (fun _ _ _ => rfl) fun o => ?_
      cases o.queryQueue with
      | nil => exact .fail _ _
      | cons front rest =>
          refine (relogged_emit _).bind_same fun _ => ?_
          exact (relogged_modify fun _ _ _ => rfl).bind_same fun _ => .pure rfl

namespace ProcessTick

variable {N : ℕ} (pAmx : List AMX) (handle : Fin N) (src : ℕ)

theorem relogged_test : MySQL.Steady ToldAlike Relogged (test pAmx handle) := by
  refine relogged_get_bind (fun _ _ _ => rfl) fun o => (relogged_emit _).bind_same fun _ => ?_
  cases o.threadQueue with
  | nil => exact .pure rfl
  | cons t rest => exact .ite ((relogged_emit _).bind_same fun _ => .pure rfl) (.pure rfl)

theorem relogged_afterExec (t : ThreadInfo) (scripts : List AMX) :
    MySQL.Steady ToldAlike Relogged (afterExec handle src t scripts) := by
  have hrelease : MySQL.Steady ToldAlike Relogged (releaseVars t) := by
    unfold releaseVars
    split
    · exact relogged_emit _
    · exact .pure rfl
  exact (relogged_view.logAll _).bind_same fun _ => hrelease.bind_same fun _ => .pure rfl

theorem relogged_popEntry (t : ThreadInfo) :
    MySQL.Steady ToldAlike Relogged (popEntry handle src t) := by
  refine relogged_get_bind (fun _ _ _ => rfl) fun o => ?_
  cases o.threadQueue with
  | nil => exact .fail _ _
  | cons front rest =>
      refine (relogged_emit _).bind_same fun _ => ?_
      exact (relogged_modify fun _ _ _ => rfl).bind_same fun _ => .pure rfl

end ProcessTick

/-! ## The natives and the two loops -/

/-- The tables hold the same objects, but for their log settings. -/
structure World.Relogged {N : ℕ} (w w' : World N) : Prop where
  my : ∀ h, Option.Rel MySQL.Relogged (w.my h) (w'.my h)
  pAmx : w.pAmx = w'.pAmx
  created : w.created = w'.created

namespace World

variable {N : ℕ} {w w' : World N}

theorem relogged_set {h : Fin N} {v v' : Option MySQL} (hw : w.Relogged w')
    (hv : Option.Rel MySQL.Relogged v v') : (w.set h v).Relogged (w'.set h v') := by
  refine ⟨fun k => ?_, hw.pAmx, hw.created⟩
  by_cases hk : k = h
  · subst hk
    simpa [World.set] using hv
  · simpa [World.set, Function.update_of_ne hk] using hw.my k

theorem relogged_view (handle : Cell) :
    Natives.View (N := N) ToldAlike MySQL.Relogged Eq handle World.Relogged where
  object := MySQL.relogged_view
  slot _ hw := hw.my _
  set _ hw hv := relogged_set hw hv
  alloc text := by
    intro w w' hw
    unfold Natives.newString
    rw [hw.created]
    exact .ok rfl ⟨hw.my, hw.pAmx, rfl⟩ (.refl _)

theorem Relogged.isNone (hw : w.Relogged w') (h : Fin N) : (w.my h).isNone = (w'.my h).isNone :=
  ((relogged_view h).connected rfl hw).1

end World

theorem ProcessTick.relogged_statement {N : ℕ} (pAmx : List AMX) (handle : Fin N) (src : ℕ)
    (stmt : TickStmt) : Natives.Steady ToldAlike World.Relogged (statement pAmx handle src stmt) := by
  have hview := World.relogged_view (N := N) handle
  cases stmt with
  | test => exact hview.call rfl (relogged_test pAmx handle)
  | each t scripts =>
      cases scripts with
      | nil => exact .pure rfl
      | cons amx scripts =>
          exact .ite (Agree.bind_same (.emit (.refl _)) fun _ => .pure rfl) (.pure rfl)
  | inCallback t amx scripts => exact hview.call rfl (relogged_afterExec handle src t scripts)
  | pop t => exact hview.call rfl (relogged_popEntry handle src t)
  | clear t => exact hview.call rfl ((relogged_modify fun _ _ _ => rfl).bind_same fun _ => .pure rfl)

namespace Natives

variable {N : ℕ} {env : Env} {params params' : List Cell}

/-- With other log settings, `mysql_init` comes to the same. -/
theorem relogged_mysql_init (hcount : param params 0 = param params' 0) :
    Prog.Agree ToldAlike World.Relogged Eq (n_mysql_init env params : Native N Cell)
      (n_mysql_init env params') := by
  unfold n_mysql_init CHECK_PARAMS
  rw [hcount]
  refine .ite (Prog.Agree.bind_same (.emit (.refl _)) fun _ => .pure rfl) (.get_bind fun w w' hw => ?_)
  have hfree : freeSlot w.my = freeSlot w'.my := by
    unfold freeSlot
    exact congrArg (List.find? · _) (funext hw.isNone)
  rw [hfree]
  cases freeSlot w'.my with
  | none =>
      refine Prog.Agree.bind_same (.emit (.refl _)) fun _ => Prog.Agree.bind_same (.emit (.refl _)) fun _ => ?_
      exact .pure rfl
  | some h =>
      refine Prog.Agree.bind_same ?_ fun _ =>
        (World.relogged_view h).call rfl (MySQL.relogged_init _ _ _ _)
      intro v v' hv
      unfold newMySQL
      rw [hv.created]
      have hnew : (MySQL.new env v'.created h).Relogged (MySQL.new env v'.created h) :=
        ⟨_, _, rfl⟩
      have hset := World.relogged_set (h := h) hv (.some hnew)
      exact .ok rfl ⟨hset.my, hset.pAmx, rfl⟩ (.refl _)

/-- **A native cannot tell the log settings.** -/
theorem relogged_function (name : NativeName) (env : Env) (amx : Memory) (params : List Cell) :
    Steady ToldAlike World.Relogged (name.function env amx params : Native N Cell) := by
  cases hhandle : name.handle params with
  | some handle => exact (World.relogged_view handle).function env amx params hhandle
  | none =>
      obtain rfl : name = .mysql_init := by
        cases name <;> first | rfl | cases hhandle
      exact relogged_mysql_init rfl

end Natives

/-! ## Runs -/

/-- The same action, but for the log settings that `mysql_init` is passed. -/
inductive Action.Relogs : Action → Action → Prop
  | same (a : Action) : Relogs a a
  | init (thread : Thread) (amx : Memory) {params params' : List Cell} (lib : Answers)
      (hcount : Natives.param params 0 = Natives.param params' 0) :
      Relogs (.native thread .mysql_init amx params lib) (.native thread .mysql_init amx params' lib)

theorem Action.Relogs.symm {a a' : Action} (h : a.Relogs a') : a'.Relogs a := by
  cases h with
  | same => exact .same a
  | init thread amx lib hcount => exact .init thread amx lib hcount.symm

namespace System

variable {N : ℕ} {s s' u : System N} {a a' : Action} {cs cs' : List Action} {tr es : List Event}

/-- The two plugins differ in the log settings of the objects only. -/
structure Relogged (s u : System N) : Prop where
  world : s.toWorld.Relogged u.toWorld
  worker : s.worker = u.worker
  main : s.main = u.main

theorem Relogged.runsScripts (hs : s.Relogged u) (thread : Thread) :
    s.runsScripts thread = u.runsScripts thread := by
  cases thread with
  | main => simp only [System.runsScripts, hs.main]
  | worker => simp only [System.runsScripts, hs.worker, hs.world.pAmx]

/-- The same step is possible in the other plugin. -/
def Follows (s' : System N) (es : List Event) (step : Outcome (System N) Event Fault) : Prop :=
  ∃ u' es', step = .next u' es' ∧ s'.Relogged u' ∧ ToldAlike es es'

theorem Relogged.perform {α : Type} {m m' : Native N α} {k : α → System N → System N}
    (hs : s.Relogged u) (hm : Prog.Agree ToldAlike World.Relogged Eq m m')
    (hk : ∀ a {t t' : System N}, t.Relogged t' → (k a t).Relogged (k a t'))
    (h : s.perform m k = .next s' es) : s'.Follows es (u.perform m' k) := by
  unfold System.perform at h
  cases hrun : m s.toWorld with
  | error f =>
      rw [hrun] at h
      cases h
  | ok r =>
      obtain ⟨a, w, es₁⟩ := r
      rw [hrun] at h
      cases h
      obtain ⟨_, w', es', hrun', rfl, hw, hes⟩ := hm.of_ok hs.world hrun
      have hend : Relogged { s with toWorld := w } { u with toWorld := w' } :=
        ⟨hw, hs.worker, hs.main⟩
      exact ⟨_, es', by simp only [System.perform, hrun'], hk a hend, hes⟩

theorem stepWorker_relogged {lib : Answers} (hs : s.Relogged u)
    (hstep : s.stepWorker lib = .next s' es) : s'.Follows es (u.stepWorker lib) := by
  unfold stepWorker at hstep ⊢
  rw [← hs.worker, ← hs.world.pAmx]
  cases hw : s.worker with
  | scan i =>
      rw [hw] at hstep
      by_cases hi : i < N
      · simp only [dif_pos hi] at hstep ⊢
        have hslot := hs.world.my ⟨i, hi⟩
        generalize s.my ⟨i, hi⟩ = v, u.my ⟨i, hi⟩ = v' at hstep hslot
        cases hslot with
        | none =>
            cases hstep
            exact ⟨_, [], rfl, ⟨hs.world, rfl, hs.main⟩, .nil⟩
        | some ho =>
            obtain ⟨log, print, rfl⟩ := ho
            cases hstep
            exact ⟨_, [], rfl, ⟨hs.world, rfl, hs.main⟩, .nil⟩
      · simp only [dif_neg hi] at hstep
        cases hstep
  | body handle src stmt =>
      rw [hw] at hstep
      exact hs.perform ((World.relogged_view handle).call rfl
        (QueryThread.relogged_statement _ handle src stmt))
        (fun pc _ _ ht => ⟨ht.world, rfl, ht.main⟩) hstep

theorem stepTick_relogged (hs : s.Relogged u) (hstep : s.stepTick = .next s' es) :
    s'.Follows es u.stepTick := by
  unfold stepTick at hstep ⊢
  rw [← hs.main, ← hs.world.pAmx]
  cases hm : s.main with
  | idle =>
      rw [hm] at hstep
      cases hstep
      exact ⟨_, [], rfl, ⟨hs.world, hs.worker, rfl⟩, .nil⟩
  | scan i =>
      rw [hm] at hstep
      by_cases hi : i < N
      · simp only [dif_pos hi] at hstep ⊢
        have hslot := hs.world.my ⟨i, hi⟩
        generalize s.my ⟨i, hi⟩ = v, u.my ⟨i, hi⟩ = v' at hstep hslot
        cases hslot with
        | none =>
            cases hstep
            exact ⟨_, [], rfl, ⟨hs.world, hs.worker, rfl⟩, .nil⟩
        | some ho =>
            obtain ⟨log, print, rfl⟩ := ho
            cases hstep
            exact ⟨_, [], rfl, ⟨hs.world, hs.worker, rfl⟩, .nil⟩
      · simp only [dif_neg hi] at hstep
        cases hstep
  | body handle src stmt =>
      rw [hm] at hstep
      exact hs.perform (ProcessTick.relogged_statement _ handle src stmt)
        (fun pc _ _ ht => ⟨ht.world, ht.worker, rfl⟩) hstep

/-- **One step**: what one plugin does the other does, but for the log. -/
theorem step_relogged (hs : s.Relogged u) (ha : a.Relogs a') (hstep : s.step a = .next s' es) :
    s'.Follows es (u.step a') := by
  cases ha with
  | init thread amx lib hcount =>
      simp only [step, ← hs.runsScripts, ← hs.world.pAmx] at hstep ⊢
      split at hstep
      · rename_i hruns
        rw [if_pos hruns]
        exact hs.perform (Natives.relogged_mysql_init hcount) (fun _ _ _ ht => ht) hstep
      · cases hstep
  | same =>
      cases a with
      | worker lib => exact stepWorker_relogged hs hstep
      | tick => exact stepTick_relogged hs hstep
      | native thread name amx params lib =>
          simp only [step, ← hs.runsScripts, ← hs.world.pAmx] at hstep ⊢
          split at hstep
          · rename_i hruns
            rw [if_pos hruns]
            exact hs.perform (Natives.relogged_function name _ amx params) (fun _ _ _ ht => ht) hstep
          · cases hstep
      | load amx | unload amx =>
          simp only [step, ← hs.main, ← hs.world.pAmx] at hstep ⊢
          split at hstep
          · rename_i hidle
            rw [if_pos hidle]
            cases hstep
            exact ⟨_, [], rfl, ⟨⟨hs.world.my, rfl, hs.world.created⟩, hs.worker, rfl⟩, .nil⟩
          · cases hstep

/-- Every native returns the same value in both, or faults in both. -/
def SameValues (s u : System N) : Prop :=
  ∀ (name : NativeName) (lib : Answers) (amx : Memory) (params : List Cell),
    (name.function ⟨lib, s.pAmx⟩ amx params).result s.toWorld =
      (name.function ⟨lib, u.pAmx⟩ amx params).result u.toWorld

theorem Relogged.sameValues (hs : s.Relogged u) : s.SameValues u := by
  intro name lib amx params
  rw [← hs.world.pAmx]
  exact (Natives.relogged_function name _ amx params).result_eq hs.world

theorem relogged_initial : Relogged (initial : System N) initial :=
  ⟨⟨fun _ => .none, rfl, rfl⟩, rfl, rfl⟩

/-- **The log settings only tell**: with other settings the same actions are executed, up to the same
    point, the objects differ in nothing else, the natives return the same values, and all that is
    emitted besides the log and the error messages on the console is the same. -/
theorem logs_only_tell (hcs : List.Forall₂ Action.Relogs cs cs') :
    Option.Rel (fun r r' => r.1.Relogged r'.1 ∧ r.1.SameValues r'.1 ∧ ToldAlike r.2 r'.2)
      ((plugin N).exec cs initial) ((plugin N).exec cs' initial) := by
  have hforth : ∀ {bs bs' : List Action} {s₁ : System N} {tr₁ : List Event},
      List.Forall₂ Action.Relogs bs bs' → (plugin N).exec bs initial = some (s₁, tr₁) →
      ∃ u tr', (plugin N).exec bs' initial = some (u, tr') ∧ s₁.Relogged u ∧ ToldAlike tr₁ tr' := by
    intro bs bs' s₁ tr₁ hbs hexec
    refine Machine.exec_related (J := Relogged) (A := Action.Relogs) (T := ToldAlike) ?_ hbs
      relogged_initial hexec
    exact fun _ _ _ _ _ _ hs ha hstep => step_relogged hs ha hstep
  cases hexec : (plugin N).exec cs initial with
  | some r =>
      obtain ⟨u, tr', hexec', hs, htr⟩ := hforth hcs hexec
      rw [hexec']
      exact .some ⟨hs, hs.sameValues, htr⟩
  | none =>
      cases hexec' : (plugin N).exec cs' initial with
      | none => exact .none
      | some r' =>
          -- the settings can be exchanged, so the first one would have come as far
          have hback := hforth (hcs.flip.imp fun _ _ h => Action.Relogs.symm h) hexec'
          obtain ⟨u, tr', hsome, -⟩ := hback
          cases hexec.symm.trans hsome

/-- A threaded query fails on a handle that was opened with these log settings. -/
def failing (log print : Cell) : List Action :=
  .native .main .mysql_init Script.memory [8, log, print] {} :: Script.mysql_connect 0 ::
    Script.mysql_query 7 5 0 :: Script.work 8 { code := 1, error := "gone" }

def failed (log print : Cell) : System 2 × List Event :=
  ((plugin 2).exec (failing log print) initial).getD (initial, [])

theorem failed_tells : (failed 0 0).1.Relogged (failed 1 1).1 ∧ (failed 0 0).1.SameValues (failed 1 1).1 ∧
    ToldAlike (failed 0 0).2 (failed 1 1).2 ∧ (failed 0 0).2.length < (failed 1 1).2.length := by
  have hcalls : List.Forall₂ Action.Relogs (failing 0 0) (failing 1 1) :=
    .cons (.init .main Script.memory {} rfl) (List.forall₂_same.2 fun a _ => .same a)
  have hboth := logs_only_tell (N := 2) hcalls
  rw [show (plugin 2).exec (failing 0 0) initial = some (failed 0 0) from rfl,
    show (plugin 2).exec (failing 1 1) initial = some (failed 1 1) from rfl] at hboth
  cases hboth with
  | some h => exact ⟨h.1, h.2.1, h.2.2, by decide⟩

end System

end MysqlPlugin
