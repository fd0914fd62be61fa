import MysqlPlugin.Thread
import MysqlPlugin.Effect

set_option autoImplicit false

/-! # Natives on a bad handle

Every native that works on a connection checks its handle first, and refuses the call if the handle
does not denote a connection. But the check looks up `my[ handle ]` with whatever cell the script
passed, and its error branch hands that pointer to `Error`, which uses it. So a call is refused as it
should be exactly if the handle lies inside the table and its slot is in use
(`Natives.refuses_iff`); `mysql_connect`, which does not call `Error`, needs only the former. -/

namespace MysqlPlugin

open Prog

theorem MySQL.returns_Error (env : Env) (error : String) (errid : ℤ) :
    Ensures (MySQL.Error env error errid) fun _ a _ _ => a = 0 := by
  refine .of_last fun _ => .of_last fun _ => .of_last fun this => .of_last fun _ => ?_
  refine .of_last fun _ => .of_last fun _ => .of_last fun _ => ?_
  rintro _ _ _ _ ⟨⟩
  rfl

/-- `Error` ends well, returns 0 and leaves the object alone. -/
theorem MySQL.run_Error (env : Env) (error : String) (errid : ℤ) (o : MySQL) :
    ∃ es, MySQL.Error env error errid o = .ok (0, o, es) := by
  obtain ⟨a, o', es, hrun⟩ := (MySQL.safe_Error env error errid).ok o
  obtain ⟨rfl, -⟩ := MySQL.stays_Error env error errid o a o' es hrun
  obtain rfl := MySQL.returns_Error env error errid _ a _ es hrun
  exact ⟨es, hrun⟩

namespace Natives

variable {N : ℕ} {w : World N} {handle : Cell}

/-- The handle is one the native can work on: that of a connection, or for `mysql_connect` of an
    initialised slot. -/
def Denotes (name : NativeName) (w : World N) (handle : Cell) : Prop :=
  ∃ h : Fin N, handle = h ∧
    if name = .mysql_connect then (w.my h).isSome = true else isConnected (w.my h) = true

/-- The call returns 0 and changes nothing, and no operation of it is undefined. -/
def Refuses (name : NativeName) (env : Env) (amx : Memory) (params : List Cell) (w : World N) :
    Prop :=
  ∃ es, name.function env amx params w = .ok (0, w, es)

theorem slotOf_of_eq {h : Fin N} (hh : handle = h) : slotOf handle w = .ok (h, w, []) :=
  slotOf_eq_ok.2 ⟨hh, rfl, rfl⟩

/-- What `CHECK_CONNECTION` does with a handle that is not connected. -/
theorem check_refuses_iff {env : Env} {label : String} {rest : Fin N → Native N Cell}
    (hbad : ∀ h : Fin N, handle = h → isConnected (w.my h) = false) :
    (∃ es, CHECK_CONNECTION env handle label rest w = .ok (0, w, es)) ↔
      ∃ h : Fin N, handle = h ∧ (w.my h).isSome = true := by
  constructor
  · rintro ⟨es, hok⟩
    obtain ⟨h, o, hh, ho, -⟩ := check_eq_ok hok
    exact ⟨h, hh, by rw [ho]; rfl⟩
  · rintro ⟨h, hh, hsome⟩
    obtain ⟨o, ho⟩ := Option.isSome_iff_exists.1 hsome
    obtain ⟨es, herror⟩ := MySQL.run_Error env (notConnected label)
      PluginError.P_ERROR_DBNOCONN.code o
    have hcall := call_eq_ok.2 ⟨o, o, ho, herror, rfl⟩
    rw [World.set_of_eq ho] at hcall
    refine ⟨es, ?_⟩
    rw [CHECK_CONNECTION, bind_of_silent (slotOf_of_eq hh), read_bind,
      if_neg (by simp [hbad h hh])]
    exact hcall

/-- Every native on a connection has the same frame. -/
theorem function_eq_check (name : NativeName) (env : Env) (amx : Memory) (params : List Cell)
    (hinit : name ≠ .mysql_init) (hconnect : name ≠ .mysql_connect) {i : ℕ}
    (hi : name.handleAt = some i) :
    ∃ f label rest, (name.function env amx params : Native N Cell) =
      CHECK_PARAMS params f name.paramCount 0 (CHECK_CONNECTION env (param params i) label rest) := by
  cases name with
  | mysql_init => exact absurd rfl hinit
  | mysql_connect => exact absurd rfl hconnect
  | _ =>
      cases hi
      exact ⟨_, _, _, rfl⟩

theorem check_params_eq {params : List Cell} {f : String} {n : ℕ} {r : Cell} {rest : Native N Cell}
    (hp : param params 0 = n * cellSize) : CHECK_PARAMS params f n r rest = rest :=
  if_neg (not_not.2 hp)

theorem connect_refuses_iff {env : Env} {amx : Memory} {params : List Cell}
    (hp : param params 0 = NativeName.mysql_connect.paramCount * cellSize)
    (hbad : ∀ h : Fin N, param params 5 = h → w.my h = none) :
    Refuses .mysql_connect env amx params w ↔ ∃ h : Fin N, param params 5 = h := by
  change (∃ es, n_mysql_connect env amx params w = .ok (0, w, es)) ↔ _
  unfold n_mysql_connect
  rw [check_params_eq (n := 6) hp]
  constructor
  · rintro ⟨es, hok⟩
    obtain ⟨h, w', _, _, hslot, -, -⟩ := bind_eq_ok.1 hok
    exact ⟨h, (slotOf_eq_ok.1 hslot).1⟩
  · rintro ⟨h, hh⟩
    rw [bind_of_silent (slotOf_of_eq hh), read_bind, hbad h hh]
    exact ⟨_, rfl⟩

/-- **When a native on a bad handle is safe**: exactly when the handle lies inside the table and, but
    for `mysql_connect`, its slot is in use. -/
theorem refuses_iff {name : NativeName} {env : Env} {amx : Memory} {params : List Cell}
    (hhandle : name.handle params = some handle)
    (hp : param params 0 = name.paramCount * cellSize) (hbad : ¬ Denotes name w handle) :
    Refuses name env amx params w ↔
      ∃ h : Fin N, handle = h ∧ (name = .mysql_connect ∨ (w.my h).isSome = true) := by
  obtain ⟨i, hi, rfl⟩ := Option.map_eq_some_iff.1 hhandle
  by_cases hconnect : name = .mysql_connect
  · subst hconnect
    cases hi
    have hnone : ∀ h : Fin N, param params 5 = h → w.my h = none := by
      intro h hh
      by_contra hsome
      exact hbad ⟨h, hh, Option.isSome_iff_ne_none.2 hsome⟩
    simpa using connect_refuses_iff hp hnone
  · have hinit : name ≠ .mysql_init := by
      rintro rfl
      cases hi
    obtain ⟨f, label, rest, hframe⟩ := function_eq_check name env amx params hinit hconnect hi
    have hnot : ∀ h : Fin N, param params i = h → isConnected (w.my h) = false := by
      intro h hh
      by_contra hconn
      exact hbad ⟨h, hh, by rw [if_neg hconnect]; simpa using hconn⟩
    rw [Refuses, hframe, check_params_eq hp, check_refuses_iff hnot]
    simp [hconnect]

end Natives

namespace System

open Natives

/-- `mysql_ping` after `mysql_init` alone: the slot is in use, the connection is not. -/
theorem ping_refused_unconnected :
    ∃ s : System 1, (s.my 0).isSome = true ∧
      Refuses .mysql_ping ⟨{}, s.pAmx⟩ Script.memory [4, 0] s.toWorld := by
  obtain ⟨tr, s, -, hview⟩ := Machine.exists_run_of_exec (M := plugin 1) (P := fun _ _ => True)
    (f := fun r => ((r.1.my 0).isSome, isConnected (r.1.my 0)))
    (show Option.map _ ((plugin 1).exec [Script.mysql_init] System.initial) = some (true, false)
      from rfl)
    (Machine.obeys_all _ _)
  obtain ⟨hsome, hconn⟩ := Prod.mk.inj hview
  have hbad : ¬ Denotes .mysql_ping s.toWorld 0 := by
    rintro ⟨h, -, hdenotes⟩
    obtain rfl := Subsingleton.elim h 0
    rw [if_neg (by decide), hconn] at hdenotes
    cases hdenotes
  exact ⟨s, hsome, (refuses_iff rfl rfl hbad).2 ⟨0, rfl, .inr hsome⟩⟩

/-- No handle was ever opened: `mysql_ping` on handle 0 hands the `NULL` it found to `Error`. -/
theorem ping_of_null_slot :
    ¬ ∀ (N : ℕ) (tr : List Event) (s : System N) (name : NativeName) (lib : Answers) (amx : Memory)
      (params : List Cell) (handle : Cell), 1 ≤ N → (plugin N).Reach (fun _ _ => True) tr s →
        name.handle params = some handle → param params 0 = name.paramCount * cellSize →
          ¬ Denotes name s.toWorld handle → Refuses name ⟨lib, s.pAmx⟩ amx params s.toWorld := by
  intro hall
  have hbad : ¬ Denotes .mysql_ping (initial : System 1).toWorld 0 := by
    rintro ⟨h, -, hdenotes⟩
    cases hdenotes
  obtain ⟨es, hok⟩ := hall 1 [] initial .mysql_ping {} Script.memory [4, 0] 0 le_rfl .refl rfl rfl
    hbad
  cases hok

end System
end MysqlPlugin
