import MysqlPlugin.Dispatch
import MysqlPlugin.Readback

set_option autoImplicit false

/-! # A connection without threaded queries

A script that leaves out `resultid` gets the answer of its statement from `mysql_query` itself. Nothing
ever waits in the queues of such a connection, so both threads test it and pass on. Whatever they do
for other handles, the calls on this one come to the same as in a plugin of which only they run, and
the object is the same in the end (`System.direct_isolated`). -/

namespace MysqlPlugin

open Prog Natives Mailbox

/-- The call waits for the answer of its statement, if it has one. -/
def Action.isDirect : Action → Bool
  | .native .main name _ params _ => name ≠ .mysql_close && (!name.isQuery || param params 2 = -1)
  | _ => false

theorem Action.isDirect_native {thread : Thread} {name : NativeName} {amx : Memory}
    {params : List Cell} {lib : Answers}
    (ha : (Action.native thread name amx params lib).isDirect = true) :
    thread = .main ∧ name ≠ .mysql_close ∧ (name.isQuery = true → param params 2 = -1) := by
  cases thread with
  | worker => cases ha
  | main =>
      obtain ⟨hname, hparam⟩ := Bool.and_eq_true_iff.1 ha
      refine ⟨rfl, of_decide_eq_true hname, fun hquery => ?_⟩
      simpa [hquery] using hparam

namespace MySQL

/-- A change by a native that queues nothing. -/
theorem Change.queues {name : NativeName} {params : List Cell} {lib : Answers} {o o' : MySQL}
    {es : List Event} (hc : o.Change name params lib es o')
    (hdirect : name.isQuery = true → param params 2 = -1) :
    o'.queryQueue = o.queryQueue ∧ o'.threadQueue = o.threadQueue := by
  cases hc with
  | observed h =>
      rw [h.same]
      exact ⟨rfl, rfl⟩
  | accepted q hn hr => exact absurd (hdirect hn) hr
  | connected | executed | stored | freed => exact ⟨rfl, rfl⟩

end MySQL

namespace Slot

variable {h : ℕ} {a : Action} {v v' : Slot} {es : List Event}

/-- Nothing waits on the connection, and no thread is in the body of its loop for it. -/
structure Direct (v : Slot) : Prop where
  object : ∃ o, v.object = some o ∧ o.queryQueue = [] ∧ o.threadQueue = []
  worker : ∀ src stmt, v.worker = some (src, stmt) → stmt = .test
  tick : ∀ src stmt, v.tick = some (src, stmt) → stmt = .test

/-- What a native is called for on the connection is done when it returns. -/
def CallsDirectly (h : ℕ) (a : Action) : Prop := a.concerns h = true → a.isDirect = true

/-- Nothing ever does wait, and what is not a call on the connection leaves the object alone. -/
theorem Step.direct (hstep : Step h a v es v') (hv : v.Direct) (ha : CallsDirectly h a) :
    v'.Direct ∧ (a.concerns h = false → v'.object = v.object) := by
  cases hstep with
  | other _ _ hsame =>
      refine ⟨⟨?_, ?_, ?_⟩, fun _ => hsame.object⟩
      · rw [hsame.object]
        exact hv.object
      · rw [hsame.worker]
        exact hv.worker
      · rw [hsame.tick]
        exact hv.tick
  | workerEnter lib ha' o t n =>
      refine ⟨⟨hv.object, ?_, hv.tick⟩, fun _ => rfl⟩
      rintro src stmt ⟨⟩
      rfl
  | worker lib ha' o o' src stmt place _ t n hd =>
      obtain rfl := hv.worker src stmt rfl
      obtain ⟨_, ⟨⟩, hqueue, hthread⟩ := hv.object
      cases hd with
      | skip hskip => exact ⟨⟨hv.object, (fun _ _ hp => by cases hp), hv.tick⟩, fun _ => rfl⟩
      | copy q rest hq => cases hqueue.symm.trans hq
  | tickEnter ha' o w n =>
      refine ⟨⟨hv.object, hv.worker, ?_⟩, fun _ => rfl⟩
      rintro src stmt ⟨⟩
      rfl
  | tick ha' pAmx v₁ v₁' src stmt place _ w n hd =>
      obtain rfl := hv.tick src stmt rfl
      obtain ⟨o, rfl, hqueue, hthread⟩ : ∃ o, v₁ = some o ∧ _ := hv.object
      cases hd with
      | skip _ hskip => exact ⟨⟨hv.object, hv.worker, fun _ _ hp => by cases hp⟩, fun _ => rfl⟩
      | take _ t rest hq => cases hthread.symm.trans hq
  | native thread name amx params lib ha' hh o o' _ w t hr n n' hn hc =>
      subst ha'
      have hconcerns : (Action.native thread name amx params lib).concerns h = true :=
        decide_eq_true hh
      obtain ⟨-, -, hdirect⟩ := Action.isDirect_native (ha hconcerns)
      obtain ⟨_, ⟨⟩, hqueue, hthread⟩ := hv.object
      obtain ⟨hqueue', hthread'⟩ := hc.queues hdirect
      refine ⟨⟨⟨o', rfl, hqueue'.trans hqueue, hthread'.trans hthread⟩, hv.worker, hv.tick⟩, ?_⟩
      rw [hconcerns]
      exact fun hfalse => by cases hfalse
  | opened =>
      obtain ⟨_, hnone, -⟩ := hv.object
      cases hnone
  | closed thread amx params lib ha' hp hh =>
      subst ha'
      exact absurd rfl (Action.isDirect_native (ha (decide_eq_true (congrArg some hh)))).2.1

end Slot

namespace System

variable {N : ℕ} {h : Fin N} {s s' u : System N} {tr es : List Event} {a : Action} {cs : List Action}

/-- The actions that matter to a connection without threaded queries. -/
def matters (h : ℕ) (a : Action) : Bool := a.concerns h || a.change.isSome

/-- The two plugins have the same on the connection, the second one outside of `ProcessTick`. -/
structure Side (h : Fin N) (s u : System N) : Prop where
  object : u.my h = s.my h
  scripts : s.pAmx = u.pAmx
  idle : u.main = .idle
  here : (s.slot h).Direct
  there : (u.slot h).Direct

theorem direct_step (hs : (s.slot h).Direct) (ha : Slot.CallsDirectly h a)
    (hstep : s.step a = .next s' es) :
    (s'.slot h).Direct ∧ (a.concerns h = false → s'.my h = s.my h) := by
  obtain ⟨hs', hslot⟩ := step_slot hstep h
  exact hslot.direct hs ha

/-- Objects without queries of which one is the other, some queries later. -/
theorem eq_of_trails {o o' : MySQL} (htrails : o.Trails o') (hqueue : o'.queryQueue = []) : o = o' := by
  obtain ⟨queue, rfl, hsuffix⟩ := htrails
  rw [hqueue, List.map_nil, List.suffix_nil, List.map_eq_nil_iff] at hsuffix
  rw [hsuffix, ← hqueue]

/-- What matters is repeated. -/
theorem side_keep (hs : Side h s u) (ha : Slot.CallsDirectly h a) (hkeep : matters h a = true)
    (hstep : s.step a = .next s' es) :
    ∃ u' es', u.step a = .next u' es' ∧ Side h s' u' ∧ List.Forall₂ Event.Twin es es' := by
  obtain ⟨hhere, -⟩ := direct_step hs.here ha hstep
  cases a with
  | worker | tick => cases hkeep
  | native thread name data params lib =>
      have hconcerns : (Action.native thread name data params lib).concerns h = true := by
        simpa [matters, Action.change] using hkeep
      obtain ⟨rfl, -, -⟩ := Action.isDirect_native (ha hconcerns)
      obtain ⟨o, ho, -⟩ := hs.here.object
      have halong : Along h s.toWorld u.toWorld := along_of_trails ho (hs.object.trans ho) (.refl o)
      have hruns : u.runsScripts .main = true := by rw [runsScripts, hs.idle]
      obtain ⟨w, es', hstep', halong', hscripts, hes⟩ :=
        native_along (of_decide_eq_true hconcerns) halong hs.scripts hruns hstep
      obtain ⟨hthere, -⟩ := direct_step hs.there ha hstep'
      obtain ⟨o₁, ho₁, -⟩ := hhere.object
      obtain ⟨o₂, ho₂, hqueue, -⟩ := hthere.object
      obtain ⟨o₃, ho₃, htrails⟩ := halong'.object ho₁
      obtain rfl : o₂ = o₃ := Option.some.inj (ho₂.symm.trans ho₃)
      obtain rfl := eq_of_trails htrails hqueue
      exact ⟨_, es', hstep', ⟨ho₂.trans ho₁.symm, hscripts, hs.idle, hhere, hthere⟩, hes⟩
  | load amx =>
      have hstep' : u.step (.load amx) = .next { u with pAmx := u.pAmx ++ [amx] } [] := if_pos hs.idle
      simp only [step] at hstep
      split at hstep
      · cases hstep
        exact ⟨_, [], hstep', ⟨hs.object, congrArg (· ++ [amx]) hs.scripts, hs.idle, hhere, hs.there⟩,
          .nil⟩
      · cases hstep
  | unload amx =>
      have hstep' : u.step (.unload amx) = .next { u with pAmx := u.pAmx.erase amx } [] := if_pos hs.idle
      simp only [step] at hstep
      split at hstep
      · cases hstep
        exact ⟨_, [], hstep', ⟨hs.object, congrArg (List.erase · amx) hs.scripts, hs.idle, hhere,
          hs.there⟩, .nil⟩
      · cases hstep

/-- The rest can be left out. -/
theorem side_drop (hs : Side h s u) (ha : Slot.CallsDirectly h a) (hdrop : matters h a = false)
    (hstep : s.step a = .next s' es) : Side h s' u := by
  obtain ⟨hconcerns, hchange⟩ := Bool.or_eq_false_iff.1 hdrop
  have hnone : a.change = none := Option.not_isSome_iff_eq_none.1 (Bool.eq_false_iff.1 hchange)
  obtain ⟨hhere, hobject⟩ := direct_step hs.here ha hstep
  refine ⟨hs.object.trans (hobject hconcerns).symm, ?_, hs.idle, hhere, hs.there⟩
  rw [pAmx_of_step hstep, hnone]
  exact hs.scripts

/-- **A connection without threaded queries is on its own**: whatever the two threads and the calls on
    other handles do in between, the calls on this one come to the same as alone, and the object is the
    same in the end. -/
theorem direct_isolated (hdirect : (s.slot h).Direct) (hidle : s.main = .idle)
    (hpath : (plugin N).Path (fun _ a => Slot.CallsDirectly h a) s cs tr s') :
    ∃ u es, (plugin N).exec (cs.filter (matters h)) s = some (u, es) ∧ u.my h = s'.my h ∧
      ∃ kept, kept.Sublist tr ∧ List.Forall₂ Event.Twin kept es := by
  obtain ⟨u, es, hexec, hside, hkept⟩ := hpath.exec_filter (J := Side h) (E := Event.Twin)
    (P := fun _ a => Slot.CallsDirectly h a)
    (fun _ _ _ _ _ hside ha hkeep hstep => side_keep hside ha hkeep hstep)
    (fun _ _ _ _ _ hside ha hdrop hstep => side_drop hside ha hdrop hstep)
    ⟨rfl, rfl, hidle, hdirect, hdirect⟩
  exact ⟨u, es, hexec, hside.object, hkept⟩

/-- Two connections: a query waits on the first one, the second one has none. -/
def twoConnections : System 3 × List Event :=
  ((plugin 3).exec [Script.mysql_init, Script.mysql_init, Script.mysql_connect 0,
    Script.mysql_connect 1, Script.mysql_query 7 5 0] System.initial).getD (System.initial, [])

/-- A statement with two rows on the second connection, both of which are read, while the worker
    executes the query of the first. -/
def amidWorker : List Action :=
  [Script.mysql_query (-1) 0 1 { rows := some ⟨["id"], [[some "1"], [some "2"]]⟩ }] ++ Script.work 4 ++
    [Script.mysql_store_result 1] ++ Script.work 3 ++
    [.native .main .mysql_fetch_row_data Script.memory [4, 1] {}] ++ Script.ticks 6 ++
    [.native .main .mysql_fetch_string Script.memory [8, 0, 1] {}]

theorem direct_second : (twoConnections.1.slot 1).Direct := by
  refine ⟨⟨_, rfl, rfl, rfl⟩, fun src stmt hplace => ?_, fun src stmt hplace => ?_⟩
  · have hnone : (twoConnections.1.slot 1).worker = none := rfl
    cases hnone.symm.trans hplace
  · have hnone : (twoConnections.1.slot 1).tick = none := rfl
    cases hnone.symm.trans hplace

theorem path_amidWorker : ∃ es s', (plugin 3).Path (fun _ a => Slot.CallsDirectly 1 a)
    twoConnections.1 amidWorker es s' := by
  have hexec : ((plugin 3).exec amidWorker twoConnections.1).isSome = true := rfl
  refine ⟨_, _, Machine.Path.of_exec (Option.some_get hexec).symm (Machine.obeys_of_check
    (p := fun _ a => !a.concerns 1 || a.isDirect) rfl fun _ a ha hconcerns => ?_)⟩
  rwa [hconcerns] at ha

theorem amidWorker_alone : ∃ s' u : System 3, ∃ es,
    (plugin 3).exec (amidWorker.filter (matters 1)) twoConnections.1 = some (u, es) ∧
      u.my 1 = s'.my 1 := by
  obtain ⟨tr, s', hpath⟩ := path_amidWorker
  obtain ⟨u, es, hexec, hmy, -⟩ := direct_isolated (h := 1) direct_second rfl hpath
  exact ⟨s', u, es, hexec, hmy⟩

/-! ## Query, store, read -/

/-- The next call on the connection finds its object as the last one left it. -/
theorem direct_next {call : Action} {calls : List Action} (hdirect : (s.slot h).Direct)
    (hpath : (plugin N).Path (fun _ a => Slot.CallsDirectly h a) s cs tr s')
    (hcalls : cs.filter (Action.concerns h) = call :: calls) :
    ∃ (s₁ s₂ : System N) (es : List Event) (cs₂ : List Action) (tr₂ : List Event),
      s₁.my h = s.my h ∧ s₁.step call = .next s₂ es ∧ (s₂.slot h).Direct ∧
        (plugin N).Path (fun _ a => Slot.CallsDirectly h a) s₂ cs₂ tr₂ s' ∧
          cs₂.filter (Action.concerns h) = calls := by
  induction hpath with
  | nil s => cases hcalls
  | @cons s s₁ s' a cs es tr ha hstep hpath ih =>
      obtain ⟨hdirect₁, hsame⟩ := direct_step hdirect ha hstep
      by_cases hconcerns : a.concerns h = true
      · rw [List.filter_cons_of_pos hconcerns] at hcalls
        cases hcalls
        exact ⟨s, s₁, es, cs, tr, rfl, hstep, hdirect₁, hpath, rfl⟩
      · rw [List.filter_cons_of_neg hconcerns] at hcalls
        obtain ⟨s₂, s₃, es₃, cs₂, tr₂, hmy, hrest⟩ := ih hdirect₁ hcalls
        exact ⟨s₂, s₃, es₃, cs₂, tr₂, hmy.trans (hsame (Bool.eq_false_iff.2 hconcerns)), hrest⟩

/-- After the last one nothing changes it. -/
theorem direct_rest (hdirect : (s.slot h).Direct)
    (hpath : (plugin N).Path (fun _ a => Slot.CallsDirectly h a) s cs tr s')
    (hcalls : cs.filter (Action.concerns h) = []) : s'.my h = s.my h := by
  induction hpath with
  | nil s => rfl
  | @cons s s₁ s' a cs es tr ha hstep hpath ih =>
      obtain ⟨hdirect₁, hsame⟩ := direct_step hdirect ha hstep
      have hconcerns := List.filter_eq_nil_iff.1 hcalls a List.mem_cons_self
      rw [List.filter_cons_of_neg hconcerns] at hcalls
      exact (ih hdirect₁ hcalls).trans (hsame (Bool.eq_false_iff.2 hconcerns))

theorem direct_reads {set : ResultSet} {n : ℕ} {o : MySQL} {calls : List Action}
    (hdirect : (s.slot h).Direct)
    (hpath : (plugin N).Path (fun _ a => Slot.CallsDirectly h a) s cs tr s')
    (hcalls : cs.filter (Action.concerns h) = calls) (hreads : ∀ a ∈ calls, ReadsRow h a)
    (ho : s.my h = some o) (hr : o.HasRead set n) :
    ∃ o', s'.my h = some o' ∧ o'.HasRead set (n + calls.length) := by
  induction calls generalizing s cs tr n o with
  | nil => exact ⟨o, (direct_rest hdirect hpath hcalls).trans ho, hr⟩
  | cons call calls ih =>
      rw [List.forall_mem_cons] at hreads
      obtain ⟨s₁, s₂, es, cs₂, tr₂, hmy, hstep, hdirect₂, hpath₂, hcalls₂⟩ :=
        direct_next hdirect hpath hcalls
      obtain ⟨o₂, ho₂, hr₂⟩ := hasRead_step hreads.1 hstep (hmy.trans ho) hr
      obtain ⟨o', ho', hr'⟩ := ih hdirect₂ hpath₂ hcalls₂ hreads.2 ho₂ hr₂
      refine ⟨o', ho', ?_⟩
      rwa [List.length_cons, Nat.add_comm calls.length, ← Nat.add_assoc]

theorem applies_query {env : Env} {data : Memory} {params : List Cell} {o : MySQL}
    (hhandle : param params 4 = (h : ℤ)) (hp : param params 0 = 4 * cellSize)
    (hconn : isConnected (some o) = true) (hnow : param params 2 = -1) :
    Applies h o (o.executed env.lib (textAt (data (param params 1))))
      (n_mysql_query env data params : Native N Cell) := by
  refine applies_onConnection hp hhandle hconn fun w a w' es hok ho => ?_
  obtain ⟨query, w₁, es₁, es₂, hquery, hrest, rfl⟩ := bind_eq_ok.1 hok
  rw [run_GetString] at hquery
  cases hquery
  rw [hnow] at hrest
  exact applies_call (fun a o₁ es hrun => (MySQL.executed_of_query_sync env _ _ hrun).1) _ _ _ _ hrest ho

/-- **A script reads the rows of its own statement**: `mysql_query` without a result id, then
    `mysql_store_result`, then calls that ask for the next row; after `n` of them it has row `n` of the
    set the statement produced, or none if there are fewer, whatever goes on in between. -/
theorem direct_reads_rows (hdirect : (s.slot h).Direct) {o : MySQL} (ho : s.my h = some o)
    (hconn : isConnected (some o) = true)
    (hpath : (plugin N).Path (fun _ a => Slot.CallsDirectly h a) s cs tr s')
    {data data' : Memory} {params params' : List Cell} {lib lib' : Answers} {calls : List Action}
    (hcalls : cs.filter (Action.concerns h) = .native .main .mysql_query data params lib ::
      .native .main .mysql_store_result data' params' lib' :: calls)
    (hp : param params 0 = 4 * cellSize) (hnow : param params 2 = -1)
    (hp' : param params' 0 = cellSize) {set : ResultSet} (hcode : lib.code = 0)
    (hrows : lib.rows = some set) (hstore : lib'.store = true) (hreads : ∀ a ∈ calls, ReadsRow h a) :
    ∃ o', s'.my h = some o' ∧ o'.result.map MYSQL_RES.set = some set ∧
      (0 < calls.length → o'.row.map MYSQL_ROW.cells = set.rows[calls.length - 1]?) := by
  have hhandles : ∀ a ∈ cs.filter (Action.concerns h), a.concerns h = true :=
    fun a ha => (List.mem_filter.1 ha).2
  rw [hcalls, List.forall_mem_cons, List.forall_mem_cons] at hhandles
  obtain ⟨hquery, hresult, -⟩ := hhandles
  have hhandle : param params 4 = (h : ℤ) := Option.some.inj (of_decide_eq_true hquery)
  have hhandle' : param params' 1 = (h : ℤ) := Option.some.inj (of_decide_eq_true hresult)
  -- the statement
  obtain ⟨s₁, s₂, es, cs₂, tr₂, hmy, hstep, hdirect₂, hpath₂, hcalls₂⟩ :=
    direct_next hdirect hpath hcalls
  have ho₂ := my_of_native hstep (hmy.trans ho) (applies_query hhandle hp hconn hnow)
  obtain ⟨c, hmysql⟩ := Option.isSome_iff_exists.1 (Bool.and_eq_true_iff.1 hconn).1
  -- its result
  obtain ⟨s₃, s₄, es', cs₄, tr₄, hmy', hstep', hdirect₄, hpath₄, hcalls₄⟩ :=
    direct_next hdirect₂ hpath₂ hcalls₂
  have hconn₂ : isConnected (some (o.executed lib (textAt (data (param params 1))))) = true := by
    simpa [isConnected, MySQL.executed] using hconn
  have hmysql₂ : (o.executed lib (textAt (data (param params 1)))).mysql =
      some ((c.submit (textAt (data (param params 1)))).answer lib) := by
    rw [MySQL.executed, hmysql]
    rfl
  have ho₄ := my_of_native hstep' (hmy'.trans ho₂)
    (applies_store_result hhandle' hp' hconn₂ rfl hcode hmysql₂)
  have hunread : ((c.submit (textAt (data (param params 1)))).answer lib).unread = some set := by
    rw [MYSQL.answer, hcode, hrows]
    rfl
  -- its rows
  obtain ⟨o', ho', ⟨-, ⟨number, hres⟩, hrow⟩⟩ := direct_reads hdirect₄ hpath₄ hcalls₄ hreads ho₄
    (MySQL.hasRead_storing hconn₂ hmysql₂ hunread hstore)
  rw [Nat.zero_add] at hrow
  exact ⟨o', ho', by rw [hres]; rfl, hrow⟩

theorem amidWorker_reads : ∃ s' : System 3, ∃ o, s'.my 1 = some o ∧
    o.row.map MYSQL_ROW.cells = some [some "2"] := by
  obtain ⟨tr, s', hpath⟩ := path_amidWorker
  have hcell : ReadsRow (1 : Fin 3) (.native .main .mysql_fetch_row_data Script.memory [4, 1] {}) :=
    ⟨_, _, _, _, _, rfl, rfl, rfl, rfl⟩
  have hstring : ReadsRow (1 : Fin 3) (.native .main .mysql_fetch_string Script.memory [8, 0, 1] {}) :=
    ⟨_, _, _, _, _, rfl, rfl, rfl, rfl⟩
  have hcalls : amidWorker.filter (Action.concerns (1 : Fin 3)) =
      [Script.mysql_query (-1) 0 1 { rows := some ⟨["id"], [[some "1"], [some "2"]]⟩ },
        Script.mysql_store_result 1, .native .main .mysql_fetch_row_data Script.memory [4, 1] {},
        .native .main .mysql_fetch_string Script.memory [8, 0, 1] {}] := rfl
  obtain ⟨o, ho, -, hrow⟩ := direct_reads_rows (h := 1) direct_second rfl rfl hpath hcalls rfl rfl rfl rfl
    rfl rfl (by simp [hcell, hstring])
  exact ⟨s', o, ho, hrow (by decide)⟩

end System
end MysqlPlugin
