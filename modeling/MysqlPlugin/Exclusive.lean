import MysqlPlugin.Clients
import MysqlPlugin.Deeds
import MysqlPlugin.Handshake

set_option autoImplicit false

/-! # Natives on a connection the worker is using

Nothing keeps a script from calling a native on a connection while the worker is inside
`mysql_real_query` on it: there is no lock, and `parsing` is only set after that call has returned.
What does keep natives off a busy connection is less: the callbacks for its entries, since
`parsing` keeps the worker away while they execute, and the kind of native and its handle
(`System.busy_connection_spared`). None of this needs a discipline for closing handles. -/

namespace MysqlPlugin

open Prog Natives

namespace Slot

/-- The worker is between its test of `parsing` and the statement that sets or clears it only while
    `parsing` is clear, and `ProcessTick` is between its test and its pop only while it is set. This
    also holds on objects the two did not start their iterations on. -/
structure Gated (v : Slot) : Prop where
  clear : ∀ o, v.object = some o → producer v.worker = .working → o.parsing = false
  set : ∀ o src stmt, v.object = some o → v.tick = some (src, stmt) → stmt.role ≠ .away →
    o.conn = src → o.parsing = true
  fresh : ∀ c, v.Mentions c → c < v.created

variable {h : ℕ} {a : Action} {v v' : Slot} {hs : List Event}

theorem Gated.worker {lib : Answers} {src : ℕ} {o o' : MySQL} {stmt : WorkerStmt}
    {es : List Event} {place : Option (ℕ × WorkerStmt)}
    (hclear : stmt.role = .working → o.parsing = false) (hd : stmt.Does lib src o es o' place) :
    (producer place = .working → o'.parsing = false) ∧ (o.parsing = true → o'.parsing = true) := by
  cases hd with
  | skip | push | report | returned | logResult | pop => exact ⟨nofun, fun hp => hp⟩
  | copy q rest hq hp => exact ⟨fun _ => hp, fun hp => hp⟩
  | submit | answer | logExecuted | succeeded | failed =>
      exact ⟨fun _ => hclear rfl, fun hp => hp⟩
  | setParsing => exact ⟨nofun, fun _ => rfl⟩
  | clearParsing =>
      -- the flag is clear already
      refine ⟨nofun, fun hp => ?_⟩
      rw [hclear rfl] at hp
      simp at hp

theorem Gated.tick {pAmx : List AMX} {src : ℕ} {o o' : MySQL} {stmt : TickStmt} {es : List Event}
    {place : Option (ℕ × TickStmt)}
    (hset : stmt.role ≠ .away → o.conn = src → o.parsing = true)
    (hd : stmt.Does pAmx src (some o) es (some o') place) :
    (o.parsing = false → o'.parsing = false) ∧
      ∀ src' stmt', place = some (src', stmt') → stmt'.role ≠ .away → o'.conn = src' →
        o'.parsing = true := by
  cases hd with
  | skip => exact ⟨fun hp => hp, fun src' stmt' hplace => by cases hplace⟩
  | take _ t rest hq hp => exact ⟨fun hp => hp, fun src' stmt' _ _ _ => hp⟩
  | done | pass | exec | returned | pop =>
      refine ⟨fun hp => hp, fun src' stmt' hplace _ hconn => hset nofun ?_⟩
      cases hplace
      exact hconn
  | clear => exact ⟨fun _ => rfl, fun src' stmt' hplace => by cases hplace⟩

theorem gated_initial : initial.Gated := by
  refine ⟨fun o ho _ => ?_, fun o src stmt ho _ _ _ => ?_, fun c hc => ?_⟩
  · cases ho
  · cases ho
  · rcases hc with ⟨o, ho, -⟩ | ⟨src, stmt, hw, -⟩ | ⟨src, stmt, ht, -⟩
    · cases ho
    · cases hw
    · cases ht

theorem Step.gated (hstep : Step h a v hs v') (hg : v.Gated) : v'.Gated := by
  obtain ⟨hclear, hset, hfresh⟩ := hg
  have hfresh' : ∀ c, v'.Mentions c → c < v'.created := by
    intro c hc
    rcases hstep.mentions hc with hm | hopened
    · exact lt_of_lt_of_le (hfresh c hm) hstep.created
    · obtain ⟨-, rfl, hlt⟩ := hstep.opens hopened
      exact hlt
  refine ⟨?_, ?_, hfresh'⟩
  · intro o' ho' hprod
    cases hstep with
    | other _ _ hsame => exact hclear o' (hsame.object ▸ ho') (hsame.worker ▸ hprod)
    | workerEnter => cases hprod
    | worker lib ha o o₁ src stmt place _ t n hd =>
        cases ho'
        exact (Gated.worker (fun hr => hclear o rfl hr) hd).1 hprod
    | tickEnter => exact hclear o' ho' hprod
    | tick ha pAmx v₀ v₁ src stmt place _ w n hd =>
        obtain rfl : v₁ = some o' := ho'
        obtain ⟨o, rfl, -⟩ := hd.queries rfl
        exact (Gated.tick (fun hr hc => hset o src stmt rfl rfl hr hc) hd).1 (hclear o rfl hprod)
    | native thread name amx params lib ha hh o o₁ es w t hr n n' hn hc =>
        cases ho'
        rw [hc.handOver.1]
        exact hclear o rfl hprod
    | opened =>
        cases ho'
        rfl
    | closed => cases ho'
  · intro o' src' stmt' ho' ht' hrole hconn
    cases hstep with
    | other _ _ hsame => exact hset o' src' stmt' (hsame.object ▸ ho') (hsame.tick ▸ ht') hrole hconn
    | workerEnter => exact hset o' src' stmt' ho' ht' hrole hconn
    | worker lib ha o o₁ src stmt place _ t n hd =>
        cases ho'
        exact (Gated.worker (fun hr => hclear o rfl hr) hd).2
          (hset o src' stmt' rfl ht' hrole (hd.conn.symm.trans hconn))
    | tickEnter =>
        cases ht'
        exact absurd rfl hrole
    | tick ha pAmx v₀ v₁ src stmt place _ w n hd =>
        obtain rfl : v₁ = some o' := ho'
        obtain ⟨o, rfl, -⟩ := hd.queries rfl
        have hgate := Gated.tick (fun hr hc => hset o src stmt rfl rfl hr hc) hd
        exact hgate.2 src' stmt' ht' hrole hconn
    | native thread name amx params lib ha hh o o₁ es w t hr n n' hn hc =>
        cases ho'
        rw [hc.handOver.1]
        exact hset o src' stmt' rfl ht' hrole (hc.conn.symm.trans hconn)
    | opened thread amx params lib ha env log print w t hr n n' hn =>
        -- the new object is none that `ProcessTick` could have started on
        cases ho'
        have hlt : src' < n := hfresh src' (.inr (.inr ⟨src', stmt', ht', rfl⟩))
        exact absurd hconn.symm (Nat.ne_of_lt hlt)
    | closed => cases ho'

theorem gated_run {P : Slot → Action → Prop} (hrun : (lts h).Run P initial hs v) : v.Gated :=
  hrun.invariant (I := Gated) (fun _ _ _ _ hg _ hstep => Step.gated hstep hg) gated_initial

end Slot

namespace System

variable {N : ℕ} {h k : Fin N} {s s' : System N} {tr es : List Event}

/-- While a callback for an entry of an open connection executes, the worker is not inside
    `mysql_real_query` on it. -/
theorem callback_not_busy (hrun : (plugin N).Reach (fun _ _ => True) tr s) {src c : ℕ}
    {q : QueryInfo} {t : ThreadInfo} {amx : AMX} {scripts : List AMX}
    (hbusy : s.worker = .body h src (.executing q c))
    (hcallback : s.main = .body k c (.inCallback t amx scripts)) {g : Fin N} {o : MySQL}
    (ho : s.my g = some o) : o.conn ≠ c := by
  rintro rfl
  -- the object belongs to one slot, which is the one both threads are at
  have hown := owned_reach hrun
  have hg := hown.mentioned (h := g) (.inl ⟨o, ho, rfl⟩)
  have hh := hown.mentioned (h := h)
    (.inr (.inl ⟨src, _, worker_place hbusy, .inr ⟨q, rfl⟩⟩))
  have hk := hown.mentioned (h := k) (.inr (.inr ⟨o.conn, _, main_place hcallback, rfl⟩))
  obtain rfl : g = h := Fin.ext (hown.unique hg hh)
  obtain rfl : g = k := Fin.ext (hown.unique hg hk)
  obtain ⟨hs, hslot, -, -⟩ := slot_reach (Q := fun _ _ => True) (h := g) hrun
  have hgated := Slot.gated_run hslot
  have hclear := hgated.clear o ho (by rw [worker_place hbusy]; rfl)
  have hset := hgated.set o o.conn _ ho (main_place hcallback) nofun rfl
  rw [hclear] at hset
  simp at hset

/-- **What spares a busy connection.** While the worker is inside `mysql_real_query` on connection
    `c`, a native does not call the client library for `c` if it is called in a callback for an entry
    of `c`, if it is a threaded query that gets accepted, or if its handle does not denote `c`. -/
theorem busy_connection_spared (hrun : (plugin N).Reach (fun _ _ => True) tr s) {src c : ℕ}
    {q : QueryInfo} (hbusy : s.worker = .body h src (.executing q c)) {thread : Thread}
    {name : NativeName} {amx : Memory} {params : List Cell} {lib : Answers}
    (hstep : s.step (.native thread name amx params lib) = .next s' es)
    (hspared : (∃ k t script scripts, s.main = .body k c (.inCallback t script scripts)) ∨
      (∃ c' e, .accepted c' e ∈ es) ∨
      ∀ (k : Fin N) o, name.handle params = some (k : ℤ) → s.my k = some o → o.conn ≠ c) :
    ∀ function, .client c function ∉ es := by
  intro function hmem
  obtain ⟨a, w, hok⟩ : ∃ a w, name.function ⟨lib, s.pAmx⟩ amx params s.toWorld = .ok (a, w, es) := by
    cases step_acts hstep with
    | native _ _ _ _ _ hr a w _ hok => exact ⟨a, w, hok⟩
  have hcreated : c < s.created := by
    obtain ⟨hs, hslot, -, -⟩ := slot_reach (Q := fun _ _ => True) (h := h) hrun
    exact (Slot.gated_run hslot).fresh c
      (.inr (.inl ⟨src, _, worker_place hbusy, .inr ⟨q, rfl⟩⟩))
  rcases clients_function params ⟨lib, s.pAmx⟩ amx name _ _ _ _ hok c function hmem with
    ⟨g, o, hhandle, ho, hconn⟩ | ⟨-, hnew⟩
  · rcases hspared with ⟨k, t, script, scripts, hcallback⟩ | ⟨c', e, hacc⟩ | hother
    · exact callback_not_busy hrun hbusy hcallback ho hconn
    · have hchange := (effect_function ⟨lib, s.pAmx⟩ amx params name _ _ _ _ hok).change
      obtain ⟨-, -, hclient⟩ := hchange.accepts ((mem_history rfl).2 hacc)
      exact hclient c function hmem
    · exact hother g o hhandle ho hconn
  · exact absurd hnew (Nat.ne_of_lt hcreated)

/-- A threaded query, up to the moment the worker is inside `mysql_real_query` for it. -/
def untilBusy : List Action :=
  [Script.mysql_init, Script.mysql_connect 0, Script.mysql_query 7 5 0] ++ Script.work 3

def busyEntry : QueryInfo := ⟨⟨5, "S"⟩, 7, some 5, none, .TYPE_ID⟩

theorem untilBusy_isSome : ((plugin 1).exec untilBusy System.initial).isSome = true := rfl

/-- The plugin at that moment. -/
def busy : System 1 := (Option.get _ untilBusy_isSome).1

theorem reach_busy :
    (plugin 1).Reach (fun _ _ => True) (Option.get _ untilBusy_isSome).2 busy :=
  Machine.run_of_exec (Option.some_get untilBusy_isSome).symm
    (Machine.obeys_all _ _)

theorem busy_connection_spared_by_query :
    ∃ (s' : System 1) (es : List Event),
      busy.step (Script.mysql_query 8 6 0) = .next s' es ∧
        .accepted 0 ⟨⟨6, "S"⟩, 8, some 6, none, .TYPE_ID⟩ ∈ es ∧
          ∀ function, .client 0 function ∉ es := by
  obtain ⟨s', es, hstep, hacc⟩ : ∃ (s' : System 1) (es : List Event),
      busy.step (Script.mysql_query 8 6 0) = .next s' es ∧
        .accepted 0 ⟨⟨6, "S"⟩, 8, some 6, none, .TYPE_ID⟩ ∈ es :=
    ⟨_, _, rfl, by decide⟩
  exact ⟨s', es, hstep, hacc, busy_connection_spared reach_busy (h := 0) (q := busyEntry) rfl hstep
    (.inr (.inl ⟨0, _, hacc⟩))⟩

/-- A script pings the connection the worker is using. -/
theorem busy_connection_pinged :
    ¬ ∀ (N : ℕ) (tr : List Event) (s : System N), (plugin N).Reach (fun _ _ => True) tr s →
      ∀ (h : Fin N) src q c o name amx params lib s' es,
        s.worker = .body h src (.executing q c) → s.my h = some o → o.conn = c →
          s.step (.native .main name amx params lib) = .next s' es →
            ∀ function, .client c function ∉ es := by
  intro hall
  obtain ⟨s', es, hstep, hping⟩ : ∃ (s' : System 1) (es : List Event),
      busy.step (.native .main .mysql_ping Script.memory [4, 0] {}) = .next s' es ∧
        .client 0 "mysql_ping" ∈ es := ⟨_, _, rfl, by decide⟩
  obtain ⟨o, ho, hconn⟩ : ∃ o, busy.my 0 = some o ∧ o.conn = 0 := ⟨_, rfl, rfl⟩
  exact hall 1 _ busy reach_busy 0 0 busyEntry 0 o .mysql_ping _ _ _ s' es rfl ho hconn hstep
    "mysql_ping" hping

end System
end MysqlPlugin
