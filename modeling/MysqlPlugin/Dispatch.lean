import MysqlPlugin.Delivery
import MysqlPlugin.Lib.Registry
import MysqlPlugin.OneMessage
import MysqlPlugin.Table

set_option autoImplicit false

/-! # The list of scripts, and who is called

`AmxLoad` and `AmxUnload` keep the list of scripts as a registry (`System.pAmx_of_exec`), and the two
functions that execute callbacks go through that list. `ProcessTick` executes `OnMysqlQuery` on every
script that defines it, and goes on unless a callback has closed the handle. `Error` executes
`OnMysqlError` on every such script as long as the handle exists: a callback that closes it is the last
(`System.dispatch_iff`). -/

namespace MysqlPlugin

open Prog Natives

/-! ## The registry -/

/-- What an action does to the list of scripts. -/
def Action.change : Action → Option (Registry.Change AMX)
  | .load amx => some (.add amx)
  | .unload amx => some (.remove amx)
  | _ => none

/-- The loop of `AmxUnload`: the first match is erased, and the loop left. -/
def AmxUnload (amx : AMX) : List AMX → List AMX
  | [] => []
  | script :: scripts => if script = amx then scripts else script :: AmxUnload amx scripts

theorem AmxUnload_eq_erase (amx : AMX) (scripts : List AMX) :
    AmxUnload amx scripts = scripts.erase amx := by
  induction scripts with
  | nil => rfl
  | cons script scripts ih => rw [AmxUnload, List.erase_cons, ih]; simp

namespace System

variable {N : ℕ} {s s' : System N} {a : Action} {tr es : List Event}

/-- The step of the machine is that loop. -/
theorem step_unload (hidle : s.main = .idle) (amx : AMX) :
    s.step (.unload amx) = .next { s with pAmx := AmxUnload amx s.pAmx } [] := by
  rw [step, if_pos hidle, AmxUnload_eq_erase]

/-- Nothing else changes the list. -/
theorem pAmx_of_step (hstep : s.step a = .next s' es) :
    s'.pAmx = (a.change.toList).foldl Registry.Change.apply s.pAmx := by
  cases step_acts hstep with
  | worker lib _ _ hmove => cases hmove <;> rfl
  | tick _ _ hmove => cases hmove <;> rfl
  | native thread name amx params lib hr r w _ hok =>
      exact (performs_function _ amx params name _ _ _ _ hok).pAmx
  | load amx hidle => rfl
  | unload amx hidle => rfl

theorem pAmx_of_exec {actions : List Action} (hexec : (plugin N).exec actions s = some (s', tr)) :
    s'.pAmx = (actions.filterMap Action.change).foldl Registry.Change.apply s.pAmx := by
  induction actions generalizing s tr with
  | nil =>
      cases hexec
      rfl
  | cons a actions ih =>
      simp only [Machine.exec] at hexec
      cases hstep : (plugin N).step s a with
      | disabled | fault => simp [hstep] at hexec
      | next s₁ es =>
          rw [hstep] at hexec
          obtain ⟨⟨s₂, tr'⟩, hrest, heq⟩ := Option.map_eq_some_iff.1 hexec
          cases heq
          have hfirst := pAmx_of_step hstep
          rw [ih hrest, hfirst, List.filterMap_cons]
          cases a.change <;> rfl

end System

/-! ## Arguments -/

/-- `ProcessTick` pushes the handle, the extra id and the result id. -/
theorem ThreadInfo.args_eq {t : ThreadInfo} (ht : t.type = .TYPE_ID) (handle : ℕ) :
    t.args handle =
      amx_Push [.cell handle, .cell (t.extraId.getD 0), .cell t.resultId] := by
  rw [args, ht]

/-! ## The loop of `ProcessTick` -/

namespace System

variable {N : ℕ} {s s' : System N} {tr : List Event} {h : Fin N}

/-- The loop over the scripts goes on, except where a callback returns to an empty slot. -/
theorem fault_iff_of_delivering (hd : s.Delivering h) :
    (∃ f, s.step .tick = .fault f) ↔
      s.my h = none ∧ ∃ src t amx scripts, s.main = .body h src (.inCallback t amx scripts) := by
  obtain ⟨src, stmt, hm, hloop⟩ := hd
  have hstep : s.step .tick =
      s.perform (ProcessTick.statement s.pAmx h src stmt) (fun pc s => { s with main := pc }) := by
    rw [step, stepTick, hm]
  rw [hstep, perform]
  constructor
  · rintro ⟨f, hfault⟩
    cases hrun : ProcessTick.statement s.pAmx h src stmt s.toWorld with
    | ok r => simp [hrun] at hfault
    | error f' =>
        rcases ProcessTick.statement_faults hrun with ⟨hnone, hnot, -⟩ | ⟨t, o, rfl, -⟩
        · cases stmt with
          | inCallback t amx scripts => exact ⟨hnone, src, t, amx, scripts, hm⟩
          | each t scripts => exact absurd rfl (hnot t scripts)
          | test | pop | clear => cases hloop
        · cases hloop
  · rintro ⟨hnone, src', t, amx, scripts, hm'⟩
    cases hm'.symm.trans hm
    have hfault : ProcessTick.statement s.pAmx h src (.inCallback t amx scripts) s.toWorld =
        .error (.nullMySQL h) := by
      simp only [ProcessTick.statement, call, hnone]
    exact ⟨_, by rw [hfault]⟩

end System

/-! ## The loop of `Error` -/

namespace ErrorWorld

variable {N : ℕ} {w : ErrorWorld N} {h : Fin N} {o : MySQL} {error : String} {errid : ℤ}

/-- A script is told an error of handle `id`: some text, and the two numbers. -/
def Tells (id : ℕ) (errid : ℤ) (script : AMX) (e : Event) : Prop :=
  ∃ text : String, e = .callback script "OnMysqlError"
    (amx_Push [.cell id, .cell errid, .string (some text)])

/-- The scripts with what their callbacks call. -/
def calling (calls : AMX → List NativeCall) (scripts : List AMX) : List (AMX × List NativeCall) :=
  scripts.map fun script => (script, calls script)

/-- **Who is told**: the loop executes the callback of every script that defines it, in order, exactly
    if the handle still exists at every turn. -/
theorem errorLoop_tells_iff (calls : AMX → List NativeCall) {scripts : List AMX}
    (hk : w.Keeps h o) :
    List.Forall₂ (Tells o.id errid) (defining "OnMysqlError" scripts)
        (errorLoop h o.conn error errid (calling calls scripts) w) ↔
      w.Turns calls (fun w' => (w'.handle h o.conn).isSome = true)
        (defining "OnMysqlError" scripts) := by
  induction scripts generalizing w with
  | nil => simp [defining, calling, errorLoop, Turns]
  | cons script scripts ih =>
      rw [calling, List.map_cons, ← calling, errorLoop]
      by_cases hf : script.FindPublic "OnMysqlError" = true
      · rw [if_pos hf, defining_cons, if_pos hf, turns_cons]
        cases hthere : w.handle h o.conn with
        | none => simp [args, hthere]
        | some this =>
            obtain ⟨hthis, hconn⟩ := handle_eq_some.1 hthere
            have htold : Tells o.id errid script (.callback script "OnMysqlError"
                (amx_Push [.cell this.id, .cell errid,
                  .string (some (message error (w.my_error o.conn)))])) :=
              ⟨_, by rw [hk.2 this hthis hconn]⟩
            simp only [args, hthere, Option.map_some, List.forall₂_cons, htold, true_and,
              Option.isSome_some]
            cases hrun : (calls script).foldlM call w with
            | none => cases defining "OnMysqlError" scripts <;> simp
            | some w' =>
                have hothers := ih (keeps_calls hk hrun)
                by_cases hnil : defining "OnMysqlError" scripts = []
                · simp only [hnil, ne_eq, not_true_eq_false, false_implies, iff_true]
                  rw [hnil] at hothers
                  exact hothers.2 (by intro before script after hsplit; simp at hsplit)
                · simp only [ne_eq, hnil, not_false_eq_true, forall_const, Option.some.injEq,
                    exists_eq_left']
                  exact hothers
      · rw [if_neg hf, defining_cons, if_neg hf]
        exact ih hk

end ErrorWorld

/-! ## Dispatch -/

theorem TickStmt.toDeliver_eq_nil_iff {handle : ℕ} {t : ThreadInfo} {amx : AMX} {scripts : List AMX} :
    (TickStmt.inCallback t amx scripts).toDeliver handle = [] ↔
      defining t.type.callback scripts = [] := by
  rw [toDeliver, ThreadInfo.deliver_eq_map (ThreadInfo.afterCallback_afterCallback t),
    List.map_eq_nil_iff, ThreadInfo.type_afterCallback]

namespace System

variable {N : ℕ} {s s' : System N} {tr : List Event} {h : Fin N} {t : ThreadInfo}

/-- The loop of `ProcessTick` is over: it has come to `pop`, or it cannot go on. -/
def Ended (s : System N) (h : Fin N) : Prop :=
  (∃ src t, s.main = .body h src (.pop t)) ∨ s.Delivering h ∧ ∃ f, s.step .tick = .fault f

/-- A callback of `ProcessTick` has closed the handle, and it is not that of the last script. -/
def CutShort (s : System N) (h : Fin N) : Prop :=
  s.my h = none ∧ ∃ src t amx scripts, s.main = .body h src (.inCallback t amx scripts) ∧
    defining t.type.callback scripts ≠ []

/-- **Who is told by `ProcessTick`**: from the copy of an entry of `mysql_query` to the end of the loop,
    every script that defines `OnMysqlQuery` is executed once, in the order of the list, with the
    entry's own numbers and the handle, exactly if no callback but the last closes the handle. -/
theorem deliveries_eq_iff {src : ℕ} (hstart : s.main = .body h src (.each t s.pAmx))
    (htype : t.type = .TYPE_ID) (hrun : (plugin N).Run (fun s _ => s.Delivering h) s tr s')
    (hend : s'.Ended h) :
    deliveries tr = (defining "OnMysqlQuery" s.pAmx).map (fun amx => .callback amx "OnMysqlQuery"
        (amx_Push [.cell h, .cell (t.extraId.getD 0), .cell t.resultId])) ↔ ¬ s'.CutShort h := by
  have hfix : t.afterCallback = t := by
    rw [ThreadInfo.afterCallback, htype]
  have hall : s.toDeliver = (defining "OnMysqlQuery" s.pAmx).map (fun amx =>
      .callback amx "OnMysqlQuery"
        (amx_Push [.cell h, .cell (t.extraId.getD 0), .cell t.resultId])) := by
    rw [toDeliver, hstart]
    simp only [TickStmt.toDeliver]
    rw [ThreadInfo.deliver_eq_map hfix, htype]
    exact List.map_congr_left fun amx _ => by
      rw [ThreadInfo.callback, ThreadInfo.args_eq htype, htype]
      rfl
  -- what was executed and what is still to come make up what was to come at the start
  have hsplit : deliveries tr ++ s'.toDeliver = s.toDeliver := deliveries_append_toDeliver hrun
  rw [← hall, ← hsplit, List.self_eq_append_right]
  rcases hend with ⟨src', t', hpop⟩ | ⟨hd, hfault⟩
  · have hnone : s'.toDeliver = [] := by
      rw [toDeliver, hpop]
      rfl
    refine iff_of_true hnone ?_
    rintro ⟨-, src'', t'', amx, scripts, hm, -⟩
    cases hm.symm.trans hpop
  · obtain ⟨hempty, src', t', amx, scripts, hm⟩ := (fault_iff_of_delivering hd).1 hfault
    have htodo : s'.toDeliver = (TickStmt.inCallback t' amx scripts).toDeliver h := by
      rw [toDeliver, hm]
    rw [htodo, TickStmt.toDeliver_eq_nil_iff]
    constructor
    · rintro hlast ⟨-, src'', t'', amx', scripts', hm', hmore⟩
      cases hm'.symm.trans hm
      exact hmore hlast
    · intro hnot
      by_contra hmore
      exact hnot ⟨hempty, src', t', amx, scripts, hm, hmore⟩

end System

namespace ErrorWorld

variable {N : ℕ} {s : System N} {tr : List Event} {h : Fin N} {o o' : MySQL}

/-- **Who is told by `Error`**, called in any method of the object in slot `h`: every script that
    defines `OnMysqlError`, once, in the order of the list, exactly if the handle still exists whenever
    the turn of one comes. -/
theorem error_tells_iff (hreach : (plugin N).Reach (fun _ _ => True) tr s) (ho : s.my h = some o)
    (hconn : o'.conn = o.conn) (hid : o'.id = o.id) (my_error : ℕ → String) (lib : Answers)
    (error : String) (errid : ℤ) (calls : AMX → List NativeCall) :
    List.Forall₂ (Tells h (MySQL.errorId ⟨lib, s.pAmx⟩ errid)) (defining "OnMysqlError" s.pAmx)
        (Error ⟨s.toWorld.set h (some o'), my_error⟩ lib h o.conn error errid
          (calling calls s.pAmx)) ↔
      Turns ⟨s.toWorld.set h (some o'), my_error⟩ calls
        (fun w => (w.handle h o.conn).isSome = true) (defining "OnMysqlError" s.pAmx) := by
  have hkeeps : Keeps ⟨s.toWorld.set h (some o'), my_error⟩ h o' := by
    refine ⟨hconn ▸ (System.owned_reach hreach).conn_lt ho, fun o₁ ho₁ _ => ?_⟩
    have hslot : (s.toWorld.set h (some o')).my h = some o' := Function.update_self ..
    cases Option.some.inj (hslot.symm.trans ho₁)
    rfl
  have hslot : o'.id = h := hid.trans (System.knows_reach hreach h o ho)
  rw [← hslot, ← hconn]
  exact errorLoop_tells_iff calls hkeeps

end ErrorWorld

namespace System

open ErrorWorld

variable {N : ℕ} {s : System N} {tr : List Event}

/-- **The registry and the two loops over it.** After every history in which no script is loaded twice
    at a time, the list holds the scripts loaded and not unloaded since, each once, in the order of
    loading. The copy of an entry of `mysql_query` is told to every script of the list that defines
    `OnMysqlQuery`, and to no other, exactly if no callback but the last closes the handle; and a call
    of `Error` is told to every one that defines `OnMysqlError` exactly if the handle still exists
    whenever the turn of one comes. -/
theorem dispatch_iff {actions : List Action}
    (hexec : (plugin N).exec actions System.initial = some (s, tr))
    (hwell : Registry.WellFormed (actions.filterMap Action.change)) :
    (s.pAmx = Registry.live (actions.filterMap Action.change) ∧ s.pAmx.Nodup) ∧
    (∀ (h : Fin N) (src : ℕ) (t : ThreadInfo) (tr' : List Event) (s' : System N),
      s.main = .body h src (.each t s.pAmx) → t.type = .TYPE_ID →
      (plugin N).Run (fun s _ => s.Delivering h) s tr' s' → s'.Ended h →
        (deliveries tr' = (defining "OnMysqlQuery" s.pAmx).map (fun amx =>
            .callback amx "OnMysqlQuery"
              (amx_Push [.cell h, .cell (t.extraId.getD 0), .cell t.resultId])) ↔
          ¬ s'.CutShort h)) ∧
    (∀ (h : Fin N) (o o' : MySQL) (my_error : ℕ → String) (lib : Answers) (error : String)
      (errid : ℤ) (calls : AMX → List NativeCall),
      s.my h = some o → o'.conn = o.conn → o'.id = o.id →
        (List.Forall₂ (Tells h (MySQL.errorId ⟨lib, s.pAmx⟩ errid)) (defining "OnMysqlError" s.pAmx)
            (Error ⟨s.toWorld.set h (some o'), my_error⟩ lib h o.conn error errid
              (calling calls s.pAmx)) ↔
          Turns ⟨s.toWorld.set h (some o'), my_error⟩ calls
            (fun w => (w.handle h o.conn).isSome = true) (defining "OnMysqlError" s.pAmx))) := by
  have hlist : s.pAmx = Registry.live (actions.filterMap Action.change) :=
    (pAmx_of_exec hexec).trans (Registry.run_eq_live hwell)
  have hnodup : s.pAmx.Nodup := by
    rw [hlist]
    exact Registry.nodup_live hwell
  have hreach : (plugin N).Reach (fun _ _ => True) tr s :=
    Machine.run_of_exec (M := plugin N) (P := fun _ _ => True) hexec
      (Machine.obeys_all _ _)
  refine ⟨⟨hlist, hnodup⟩, ?_, ?_⟩
  · intro h src t tr' s' hstart htype hrun hend
    exact deliveries_eq_iff hstart htype hrun hend
  · intro h o o' my_error lib error errid calls ho hconn hid
    exact error_tells_iff hreach ho hconn hid my_error lib error errid calls

namespace Reloaded

/-- Two scripts; the first is reloaded. -/
def first : AMX := ⟨0, ["OnMysqlQuery", "OnMysqlError"]⟩

def second : AMX := ⟨1, ["OnMysqlQuery", "OnMysqlError"]⟩

/-- A threaded query is made and executed, and `ProcessTick` has copied its entry. -/
def actions : List Action :=
  [.load first, .load second, .unload first, .load first, Script.mysql_init, Script.mysql_connect 0,
    Script.mysql_query 7 5 0] ++ Script.work 8 ++ Script.ticks 3

def copied : System 1 × List Event :=
  ((plugin 1).exec actions System.initial).getD (System.initial, [])

/-- Where the loop over the scripts ends, and what it executed. -/
def ended : System 1 × List Event :=
  ((plugin 1).exec (Script.ticks 5) copied.1).getD (copied.1, [])

theorem both_told :
    copied.1.pAmx = [second, first] ∧
    deliveries ended.2 =
      [.callback second "OnMysqlQuery" [.cell 7, .cell 5, .cell 0],
        .callback first "OnMysqlQuery" [.cell 7, .cell 5, .cell 0]] ∧
    List.Forall₂ (Tells 0 3) [second, first]
      (Error ⟨copied.1.toWorld, fun _ => "gone"⟩ {} 0 0 "E" 3
        (calling (fun _ => [TwoScripts.ping]) copied.1.pAmx)) := by
  have hwell : Registry.WellFormed (actions.filterMap Action.change) := by decide
  have hexec : (plugin 1).exec actions System.initial = some (copied.1, copied.2) := rfl
  obtain ⟨⟨hlist, -⟩, hquery, herror⟩ := dispatch_iff hexec hwell
  have hlive : Registry.live (actions.filterMap Action.change) = [second, first] := by decide
  have hpAmx : copied.1.pAmx = [second, first] := hlist.trans hlive
  refine ⟨hpAmx, ?_, ?_⟩
  · have hstart : copied.1.main =
        .body 0 0 (.each ⟨7, some 5, none, .TYPE_ID⟩ copied.1.pAmx) := by
      rw [hpAmx]
      rfl
    have hrun := Machine.run_of_exec (M := plugin 1) (P := fun s _ => s.Delivering 0)
      (show (plugin 1).exec (Script.ticks 5) copied.1 = some (ended.1, ended.2) from rfl)
      (Machine.obeys_of_check (p := Told.isDelivering) rfl
        fun _ _ => Told.delivering_of_isDelivering)
    have hend : ended.1.main = .body 0 0 (.pop ⟨7, some 5, none, .TYPE_ID⟩) := rfl
    have hwhole : ¬ ended.1.CutShort 0 := by
      rintro ⟨-, src, t, amx, scripts, hm, -⟩
      cases hm.symm.trans hend
    have htold := (hquery 0 0 _ _ _ hstart rfl hrun (.inl ⟨0, _, hend⟩)).2 hwhole
    have hdefining : defining "OnMysqlQuery" copied.1.pAmx = [second, first] := by
      rw [hpAmx]
      rfl
    rw [hdefining] at htold
    exact htold
  · obtain ⟨o, ho, hconn⟩ : ∃ o, copied.1.my 0 = some o ∧ o.conn = 0 := ⟨_, rfl, rfl⟩
    have htold := herror 0 o o (fun _ => "gone") {} "E" 3 (fun _ => [TwoScripts.ping]) ho rfl rfl
    rw [World.set_of_eq ho, hconn] at htold
    have hdefining : defining "OnMysqlError" copied.1.pAmx = [second, first] := by
      rw [hpAmx]
      rfl
    rw [hdefining] at htold
    refine htold.2 fun before script after hsplit => ?_
    cases before with
    | nil => exact ⟨_, rfl, rfl⟩
    | cons script before =>
        cases before with
        | nil => exact ⟨_, rfl, rfl⟩
        | cons script' before => simp at hsplit

/-- The callback of the first script closes the handle: the second is never told of the error. -/
theorem second_script_untold :
    ¬ ∀ (N : ℕ) (actions : List Action) (s : System N) (tr : List Event),
      (plugin N).exec actions System.initial = some (s, tr) →
      Registry.WellFormed (actions.filterMap Action.change) →
      ∀ (h : Fin N) (o : MySQL) (my_error : ℕ → String) (lib : Answers) (error : String) (errid : ℤ)
        (calls : AMX → List NativeCall), s.my h = some o →
          List.Forall₂ (Tells h (MySQL.errorId ⟨lib, s.pAmx⟩ errid)) (defining "OnMysqlError" s.pAmx)
            (Error ⟨s.toWorld, my_error⟩ lib h o.conn error errid (calling calls s.pAmx)) := by
  intro hall
  obtain ⟨o, ho, hconn⟩ : ∃ o, copied.1.my 0 = some o ∧ o.conn = 0 := ⟨_, rfl, rfl⟩
  have htold := hall 1 actions copied.1 copied.2 rfl (by decide) 0 o (fun _ => "gone") {} "E" 3
    (fun _ => [⟨.mysql_close, Script.memory, [4, 0], {}⟩]) ho
  have hlength := htold.length_eq
  rw [hconn] at hlength
  exact absurd hlength (by decide)

end Reloaded

end System
end MysqlPlugin
