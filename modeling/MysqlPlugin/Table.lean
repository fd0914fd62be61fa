import MysqlPlugin.BadHandle
import MysqlPlugin.Slot

set_option autoImplicit false

/-! # The handle table

`mysql_init` puts a new object into the lowest free slot, `mysql_close` empties a slot, and nothing
else touches the table: in every run a slot keeps the object it has, that object knows its slot, and
the two natives do to the table what they return (`System.table_safe`). -/

namespace MysqlPlugin

open Prog

/-! ## `init` and `close` of an object, with what they return -/

namespace MySQL

theorem safe_init (env : Env) (log : ℤ) (print : Bool) : Safe (init env log print) := by
  refine Safe.bind (Safe.modify _) fun _ => Safe.bind Safe.get fun this => ?_
  refine Safe.bind (safe_logAll _) fun _ => Safe.ite (Safe.pure _) ?_
  exact Safe.bind (safe_Error _ _ _) fun _ => Safe.pure _

/-- `init` returns the handle if the library could allocate a connection. -/
theorem returns_init (env : Env) (log : ℤ) (print : Bool) {o o' : MySQL} {a : ℤ} {es : List Event}
    (h : init env log print o = .ok (a, o', es)) : a = if env.lib.init then (o.id : ℤ) else -1 := by
  obtain ⟨_, o₁, _, es₁, ⟨⟩, h₁, -⟩ := bind_eq_ok.1 h
  rw [get_bind] at h₁
  obtain ⟨_, es₂, es₃, h₂, -, -⟩ := idle_then (idle_logAll _) h₁
  by_cases hinit : env.lib.init = true
  · rw [if_pos hinit] at h₂ ⊢
    cases h₂
    rfl
  · rw [if_neg hinit] at h₂ ⊢
    obtain ⟨_, _, _, _, -, hret, -⟩ := bind_eq_ok.1 h₂
    cases hret
    rfl

/-- `init` always ends well. -/
theorem run_init (env : Env) (log : ℤ) (print : Bool) (o : MySQL) :
    ∃ es, init env log print o =
      .ok (if env.lib.init then (o.id : ℤ) else -1, o.initialised env.lib log print, es) := by
  obtain ⟨a, o', es, hrun⟩ := (safe_init env log print).ok o
  obtain ⟨rfl, -⟩ := initialised_of_init env log print hrun
  obtain rfl := returns_init env log print hrun
  exact ⟨es, hrun⟩

/-- `close` always ends well: it uses the connection only if there is one. -/
theorem run_close (o : MySQL) : ∃ o' es, close o = .ok ((), o', es) := by
  unfold close
  rw [bind_of_ok (run_freeStored o)]
  cases hm : o.mysql with
  | none => exact ⟨_, _, rfl⟩
  | some c =>
      by_cases hl : o.logtype > 0
      · simp only [bind, doIf, run_modify, run_get, hl, Option.isSome_some, if_true]
        exact ⟨_, _, rfl⟩
      · simp only [bind, doIf, run_modify, run_get, hl, Option.isSome_some, if_false]
        exact ⟨_, _, rfl⟩

theorem run_delete (o : MySQL) : ∃ o' es, delete o = .ok ((), o', es) := by
  rw [delete, get_bind, doIf]
  split
  · exact run_close o
  · exact ⟨o, [], rfl⟩

end MySQL

namespace Natives

variable {N : ℕ} {w w' : World N} {env : Env} {params : List Cell} {r : Cell} {es : List Event}

/-! ## The lowest free slot -/

theorem freeSlot_eq_some {my : Fin N → Option MySQL} {h : Fin N} :
    freeSlot my = some h ↔ my h = none ∧ ∀ k < h, my k ≠ none := by
  rw [freeSlot, List.find?_eq_some_iff_getElem]
  simp only [Option.isNone_iff_eq_none, List.getElem_finRange, Bool.not_eq_true']
  refine and_congr_right fun _ => ⟨?_, fun hlow => ⟨h, by simp, rfl, fun j hj => ?_⟩⟩
  · rintro ⟨i, hi, rfl, hlow⟩ k hk
    simpa [Option.isSome_iff_ne_none] using hlow k hk
  · simpa [Option.isSome_iff_ne_none] using hlow ⟨j, hj.trans h.isLt⟩ hj

theorem freeSlot_eq_none {my : Fin N → Option MySQL} : freeSlot my = none ↔ ∀ h, my h ≠ none := by
  simp [freeSlot]

/-! ## How the two natives end -/

/-- What `mysql_init` says when no slot is free. -/
def maxConnections (N : ℕ) : List Event :=
  [.printed ("[MySQL] Error: Max connections (" ++ dec N ++ ") reached, could not connect."),
    .logged ("Max connections (" ++ dec N ++ ") reached, could not connect.")]

/-- The ways a call of `mysql_init` ends. -/
inductive Opens (env : Env) (params : List Cell) (w : World N) : Cell → List Event → World N → Prop
  | refused (line : String) (hp : param params 0 ≠ 2 * cellSize) :
      Opens env params w (-1) [.printed line] w
  | full (hp : param params 0 = 2 * cellSize) (hfull : ∀ h, w.my h ≠ none) :
      Opens env params w (-1) (maxConnections N) w
  | opened (h : Fin N) (o : MySQL) (es : List Event) (w' : World N)
      (hp : param params 0 = 2 * cellSize) (hfree : w.my h = none) (hlow : ∀ k < h, w.my k ≠ none)
      (hmy : w'.my = Function.update w.my h (some o)) :
      Opens env params w (if env.lib.init then (h : ℤ) else -1) (.opened w.created h :: es) w'

/-- A new object in a free slot, initialised. -/
theorem run_open (env : Env) (h : Fin N) (log : ℤ) (print : Bool) (w : World N) :
    ∃ es o w', (do newMySQL env h; call h (MySQL.init env log print)) w =
        .ok (if env.lib.init then (h : ℤ) else -1, w', .opened w.created h :: es) ∧
      w'.my = Function.update w.my h (some o) := by
  obtain ⟨es, hinit⟩ := MySQL.run_init env log print (MySQL.new env w.created h)
  let w₁ : World N := { w.set h (some (MySQL.new env w.created h)) with created := w.created + 1 }
  have hslot : w₁.my h = some (MySQL.new env w.created h) := Function.update_self ..
  have hcall := call_eq_ok.2 ⟨_, _, hslot, hinit, rfl⟩
  have hnew : newMySQL env h w = .ok ((), w₁, [.opened w.created h]) := rfl
  refine ⟨es, (MySQL.new env w.created h).initialised env.lib log print,
    w₁.set h (some ((MySQL.new env w.created h).initialised env.lib log print)), ?_, ?_⟩
  · rw [bind_of_ok hnew, hcall]
    rfl
  · simp only [w₁, World.set, Function.update_idem]

theorem run_mysql_init (env : Env) (params : List Cell) (w : World N) :
    ∃ r es w', n_mysql_init env params w = .ok (r, w', es) ∧ Opens env params w r es w' := by
  unfold n_mysql_init CHECK_PARAMS
  by_cases hp : param params 0 = 2 * cellSize
  · rw [if_neg (by simpa using hp), get_bind]
    cases hfree : freeSlot w.my with
    | none => exact ⟨_, _, _, rfl, .full hp (freeSlot_eq_none.1 hfree)⟩
    | some h =>
        obtain ⟨hnone, hlow⟩ := freeSlot_eq_some.1 hfree
        obtain ⟨es, o, w', hrun, hmy⟩ := run_open env h (param params 1) (param params 2 ≠ 0) w
        exact ⟨_, _, w', hrun, .opened h o es w' hp hnone hlow hmy⟩
  · rw [if_pos (by simpa using hp)]
    exact ⟨_, _, _, rfl, .refused _ hp⟩

theorem opens_of_ok (h : n_mysql_init env params w = .ok (r, w', es)) :
    Opens env params w r es w' := by
  obtain ⟨r₁, es₁, w₁, hrun, hopens⟩ := run_mysql_init env params w
  rw [h] at hrun
  cases hrun
  exact hopens

/-- The ways a call of `mysql_close` ends. -/
inductive Closes (params : List Cell) (w : World N) : Cell → World N → Prop
  | refused (hp : param params 0 ≠ cellSize) : Closes params w 0 w
  | failed (h : Fin N) (o : MySQL) (hp : param params 0 = cellSize) (hh : param params 1 = (h : ℤ))
      (ho : w.my h = some o) (hconn : isConnected (some o) = false) : Closes params w 0 w
  | closed (h : Fin N) (o : MySQL) (w' : World N) (hp : param params 0 = cellSize)
      (hh : param params 1 = (h : ℤ)) (ho : w.my h = some o) (hconn : isConnected (some o) = true)
      (hmy : w'.my = Function.update w.my h none) : Closes params w 1 w'

theorem closes_of_ok (hok : n_mysql_close env params w = .ok (r, w', es)) :
    Closes params w r w' := by
  unfold n_mysql_close onConnection CHECK_PARAMS at hok
  by_cases hp : param params 0 = cellSize
  · rw [if_neg (by simpa using hp)] at hok
    obtain ⟨h, o, hh, ho, ⟨hconn, hrun⟩ | ⟨hconn, hrun⟩⟩ := check_eq_ok hok
    · obtain ⟨_, w₁, es₁, es₂, hdel, hret, -⟩ := bind_eq_ok.1 hrun
      cases hret
      rw [deleteMySQL, read_bind, ho] at hdel
      obtain ⟨es₃, hcall, rfl⟩ := emit_bind_eq_ok.1 hdel
      obtain ⟨_, w₂, es₄, es₅, hdelete, hset, -⟩ := bind_eq_ok.1 hcall
      cases hset
      obtain ⟨o₁, o', -, -, rfl⟩ := call_eq_ok.1 hdelete
      refine .closed h o _ hp hh ho hconn ?_
      simp only [World.set, Function.update_idem]
    · obtain ⟨es₁, herror⟩ := MySQL.run_Error env (notConnected "mysql_close")
        PluginError.P_ERROR_DBNOCONN.code o
      obtain ⟨o₁, o', ho₁, hcall, rfl⟩ := call_eq_ok.1 hrun
      obtain rfl : o = o₁ := Option.some.inj (ho.symm.trans ho₁)
      rw [herror] at hcall
      cases hcall
      rw [World.set_of_eq ho]
      exact .failed h o hp hh ho hconn
  · rw [if_pos (by simpa using hp)] at hok
    cases hok
    exact .refused hp

/-- On an occupied slot `mysql_close` ends well. -/
theorem run_mysql_close {h : Fin N} {o : MySQL} (env : Env) (hp : param params 0 = cellSize)
    (hh : param params 1 = (h : ℤ)) (ho : w.my h = some o) :
    ∃ r w' es, n_mysql_close env params w = .ok (r, w', es) := by
  unfold n_mysql_close onConnection CHECK_PARAMS CHECK_CONNECTION
  rw [if_neg (by simpa using hp), bind_of_silent (slotOf_of_eq hh), read_bind, ho]
  by_cases hconn : isConnected (some o) = true
  · obtain ⟨o', es, hdelete⟩ := MySQL.run_delete o
    have hcall := call_eq_ok.2 ⟨o, o', ho, hdelete, rfl⟩
    have hdel : deleteMySQL h w = .ok ((), (w.set h (some o')).set h none,
        .closed o.conn h o.queryQueue o.threadQueue :: (es ++ [])) := by
      rw [deleteMySQL, read_bind, ho]
      exact emit_bind_eq_ok.2 ⟨_, bind_eq_ok.2 ⟨_, _, _, [], hcall, rfl, rfl⟩, rfl⟩
    rw [if_pos hconn]
    beta_reduce
    rw [bind_of_ok hdel]
    exact ⟨_, _, _, rfl⟩
  · obtain ⟨es, herror⟩ := MySQL.run_Error env (notConnected "mysql_close")
      PluginError.P_ERROR_DBNOCONN.code o
    rw [if_neg hconn]
    exact ⟨_, _, _, call_eq_ok.2 ⟨o, o, ho, herror, rfl⟩⟩

end Natives

/-! ## The table in a run -/

theorem WorkerStmt.Does.id {lib : Answers} {src : ℕ} {o o' : MySQL} {stmt : WorkerStmt}
    {es : List Event} {place : Option (ℕ × WorkerStmt)} (hd : stmt.Does lib src o es o' place) :
    o'.id = o.id := by
  cases hd <;> rfl

theorem TickStmt.Does.id {pAmx : List AMX} {src : ℕ} {v v' : Option MySQL} {stmt : TickStmt}
    {es : List Event} {place : Option (ℕ × TickStmt)} (hd : stmt.Does pAmx src v es v' place) :
    v'.map MySQL.id = v.map MySQL.id := by
  cases hd <;> rfl

/-- A call of one of the two natives that change the table. -/
def Action.changesTable : Action → Bool
  | .native _ name _ _ _ => name = .mysql_init || name = .mysql_close
  | _ => false

namespace Slot

variable {h : ℕ} {a : Action} {v v' : Slot} {hs : List Event}

/-- Which object is in the slot: its number and its handle. -/
def occupant (v : Slot) : Option (ℕ × ℕ) := v.object.map fun o => (o.conn, o.id)

theorem occupant_of_maps {v v' : Slot} (hconn : v'.object.map MySQL.conn = v.object.map MySQL.conn)
    (hid : v'.object.map MySQL.id = v.object.map MySQL.id) : v'.occupant = v.occupant := by
  unfold occupant
  cases ho : v.object <;> cases ho' : v'.object <;> simp_all

/-- Only the two natives change who is in a slot. -/
theorem Step.occupant (hstep : Step h a v hs v') (ha : a.changesTable = false) :
    v'.occupant = v.occupant := by
  cases hstep with
  | other _ _ hsame => exact occupant_of_maps (by rw [hsame.object]) (by rw [hsame.object])
  | workerEnter | tickEnter => rfl
  | worker lib ha o o' src stmt place hs t n hd =>
      simp only [Slot.occupant, Option.map_some, hd.conn, hd.id]
  | tick ha pAmx v v' src stmt place hs w n hd => exact occupant_of_maps hd.conn hd.id
  | native thread name amx params lib ha hh o o' es w t hr n n' hn hch =>
      simp only [Slot.occupant, Option.map_some, hch.conn, hch.id]
  | opened thread amx params lib ha' =>
      subst ha'
      cases ha
  | closed thread amx params lib ha' =>
      subst ha'
      cases ha

/-- An object knows its slot. -/
theorem Step.knows (hstep : Step h a v hs v') (hv : ∀ o, v.object = some o → o.id = h) :
    ∀ o, v'.object = some o → o.id = h := by
  intro o' ho'
  cases hstep with
  | other _ _ hsame => exact hv o' (hsame.object.symm.trans ho')
  | workerEnter | tickEnter => exact hv o' ho'
  | worker lib ha o o₁ src stmt place hs t n hd =>
      cases ho'
      rw [hd.id]
      exact hv o rfl
  | tick ha pAmx v v' src stmt place hs w n hd =>
      have hid := hd.id
      obtain rfl : v' = some o' := ho'
      obtain ⟨o, rfl, ho⟩ := Option.map_eq_some_iff.1 hid.symm
      rw [← ho]
      exact hv o rfl
  | native thread name amx params lib ha hh o o₁ es w t hr n n' hn hch =>
      cases ho'
      rw [hch.id]
      exact hv o rfl
  | opened =>
      cases ho'
      rfl
  | closed => cases ho'

end Slot

namespace System

variable {N : ℕ} {s : System N} {tr : List Event}

open Natives

/-- What the table promises in a state. -/
structure TableSafe (s : System N) : Prop where
  /-- An object knows its slot. -/
  knows : ∀ h o, s.my h = some o → o.id = h
  /-- `mysql_init` always returns, and a handle it returns was the lowest free slot. -/
  returns : ∀ env params, ∃ r es w, n_mysql_init env params s.toWorld = .ok (r, w, es)
  lowest : ∀ env params r es w, n_mysql_init env params s.toWorld = .ok (r, w, es) → 0 ≤ r →
    ∃ (h : Fin N) (o : MySQL), r = h ∧ s.my h = none ∧ (∀ k < h, s.my k ≠ none) ∧
      w.my = Function.update s.my h (some o)
  /-- It reports that there is no free slot exactly if there is none. -/
  full : ∀ env params r es w, n_mysql_init env params s.toWorld = .ok (r, w, es) →
    (es = maxConnections N ↔ param params 0 = 2 * cellSize ∧ ∀ h, s.my h ≠ none) ∧
      (es = maxConnections N → r = -1 ∧ w.my = s.my)
  /-- `mysql_close` returns on every occupied slot, and empties the slot if it returns 1. -/
  closes : ∀ env params (h : Fin N), param params 0 = cellSize → param params 1 = h →
    s.my h ≠ none → ∃ r es w, n_mysql_close env params s.toWorld = .ok (r, w, es)
  closed : ∀ env params r es w, n_mysql_close env params s.toWorld = .ok (r, w, es) →
    (r = 1 ∧ ∃ h : Fin N, param params 1 = h ∧ s.my h ≠ none ∧
      w.my = Function.update s.my h none) ∨ (r = 0 ∧ w.my = s.my)
  /-- Whatever else happens, every slot keeps the object it has. -/
  others : ∀ a s' es, s.step a = .next s' es → a.changesTable = false →
    ∀ h, (s'.slot h).occupant = (s.slot h).occupant

theorem knows_reach {P : System N → Action → Prop} (hrun : (plugin N).Reach P tr s) (h : Fin N) :
    ∀ o, s.my h = some o → o.id = h := by
  refine hrun.invariant (I := fun s => ∀ o, s.my h = some o → o.id = (h : ℕ)) ?_ (fun o ho => ?_)
  · intro s a es s' hknows _ hstep
    obtain ⟨hs, hslot⟩ := step_slot hstep h
    exact hslot.knows hknows
  · cases ho

/-- **The handle table**: after every run, whatever the library answered. -/
theorem table_safe (hrun : (plugin N).Reach (fun _ _ => True) tr s) : s.TableSafe where
  knows h := knows_reach hrun h
  returns env params := by
    obtain ⟨r, es, w, hok, -⟩ := run_mysql_init env params s.toWorld
    exact ⟨r, es, w, hok⟩
  lowest env params r es w hok hr := by
    cases opens_of_ok hok with
    | refused | full => simp at hr
    | opened h o es _ hp hfree hlow hmy =>
        by_cases hinit : env.lib.init = true
        · exact ⟨h, o, if_pos hinit, hfree, hlow, hmy⟩
        · simp [hinit] at hr
  full env params r es w hok := by
    cases opens_of_ok hok with
    | refused line hp => simp [maxConnections, hp]
    | full hp hfull => exact ⟨⟨fun _ => ⟨hp, hfull⟩, fun _ => rfl⟩, fun _ => ⟨rfl, rfl⟩⟩
    | opened h o es _ hp hfree hlow hmy =>
        refine ⟨⟨by simp [maxConnections], fun hall => absurd hfree (hall.2 h)⟩, ?_⟩
        simp [maxConnections]
  closes env params h hp hh hsome := by
    obtain ⟨o, ho⟩ := Option.ne_none_iff_exists'.1 hsome
    obtain ⟨r, w, es, hok⟩ := run_mysql_close env hp hh ho
    exact ⟨r, es, w, hok⟩
  closed env params r es w hok := by
    cases closes_of_ok hok with
    | refused | failed => exact .inr ⟨rfl, rfl⟩
    | closed h o w hp hh ho hconn hmy =>
        exact .inl ⟨rfl, h, hh, by simp [ho], hmy⟩
  others a s' es hstep ha h := by
    obtain ⟨hs, hslot⟩ := step_slot hstep h
    exact hslot.occupant ha

/-- A table with a hole below an occupied slot. -/
theorem table_with_hole : ∃ s : System 3,
    s.my 0 = none ∧ (s.my 1).isSome = true ∧ s.my 2 = none ∧ s.TableSafe := by
  obtain ⟨tr, s, hrun, hview⟩ := Machine.exists_run_of_exec (M := plugin 3)
    (P := fun _ _ => True) (f := fun r => (r.1.my 0, (r.1.my 1).isSome, r.1.my 2))
    (show Option.map _ ((plugin 3).exec [Script.mysql_init, Script.mysql_connect 0,
      Script.mysql_init, Script.mysql_close 0] System.initial) = some (none, true, none) from rfl)
    (Machine.obeys_all _ _)
  obtain ⟨hhole, hsome, hfree⟩ : s.my 0 = none ∧ (s.my 1).isSome = true ∧ s.my 2 = none := by
    simpa only [Prod.mk.injEq] using hview
  exact ⟨s, hhole, hsome, hfree, table_safe hrun⟩

end System
end MysqlPlugin
