import MysqlPlugin.Calls
import MysqlPlugin.Statement

set_option autoImplicit false

/-! # Failures, and what a script learns of them

Five places hand a statement or a command to the client library and test what it returned. One lemma
for each says how it ends (`ends_refresh`, `ends_select_db`, `ends_query`, `ends_query_array`,
`QueryThread.ends_execution`), with the calls of `Error` an observer of them sees. `refresh` tests
the member `result` in place of the code, so it reports a failure exactly when a result set is stored
(`reports_iff`); and since `Error` returns 0, as `query` and `select_db` do when they succeed, a script
cannot tell their failure from their success (`Natives.tells_apart_iff`).

The natives that hand a string of the library to the script come last
(`Natives.gives_answer_iff`). -/

namespace MysqlPlugin

open Prog

/-! ## How commands and queries end -/

namespace MySQL

variable {p : Event → Bool} (env : Env) {o : MySQL}

/-- The end they have in common: `Error`, or a value. -/
theorem ends_orError (hp : Overlooks p) (c : Prop) [Decidable c] (error : String) (r : ℤ)
    (o : MySQL) :
    Ends p (if c then Error env error else return r) o (if c then 0 else r) o
      (if c then errorEvents p env o error (-1) else []) := by
  split
  · exact ends_Error hp env _ _ o
  · exact .pure p r o

/-- A code that is returned only when it is zero. -/
theorem zero_or_code (code : ℤ) : (if code ≠ 0 then 0 else code) = 0 := by
  split
  · rfl
  · rename_i hzero
    exact not_ne_iff.1 hzero

theorem ends_refresh (hp : Overlooks p) (options : Cell) (hm : o.mysql.isSome) :
    Ends p (refresh env options) o (if o.result.isSome then 0 else env.lib.code) o
      (if o.result.isSome then errorEvents p env o "Failed to reload database" (-1) else []) :=
  .then (ends_client hp hm) (.then (ends_logAll hp _ o) (.get_bind (ends_orError env hp _ _ _ o)))

theorem ends_select_db (hp : Overlooks p) (dbname : String) (hm : o.mysql.isSome) :
    Ends p (select_db env dbname) o 0 o
      (if env.lib.code ≠ 0 then errorEvents p env o "Failed to select database" (-1) else []) := by
  have hends := ends_orError env hp (env.lib.code ≠ 0) "Failed to select database" env.lib.code o
  rw [zero_or_code] at hends
  exact .then (ends_client hp hm) (.then (ends_logAll hp _ o) hends)

/-- A synchronous query up to the test of `state`. -/
theorem ends_synchronous (hp : Overlooks p) (q : CharPtr) (hm : o.mysql.isSome)
    (line : MySQL → String) {rest : MySQL → Method ℤ} {r : ℤ} {o' : MySQL} {xs : List Event}
    (hrest : Ends p (rest (o.executed env.lib q.text)) (o.executed env.lib q.text) r o' xs) :
    Ends p (do
      realQuery env q
      let this ← get
      logAll (line this)
      safeDelete q
      rest this) { o with result := none } r o' xs :=
  .then (ends_realQuery hp env q hm) (.get_bind (.then (ends_logAll hp _ _)
    (.then (ends_safeDelete hp q _) hrest)))

theorem ends_query (hp : Overlooks p) (q : CharPtr) (extra : Cell) (hm : o.mysql.isSome) :
    Ends p (query env q (-1) extra) o 0 (o.executed env.lib q.text)
      (if env.lib.code ≠ 0 then
        errorEvents p env (o.executed env.lib q.text) "Failed to exeute query" (-1) else []) := by
  have hends := ends_orError env hp (env.lib.code ≠ 0) "Failed to exeute query" env.lib.code
    (o.executed env.lib q.text)
  rw [zero_or_code] at hends
  refine .then (ends_freeStored hp o) (.if_neg (not_not_intro rfl) ?_)
  exact ends_synchronous env hp q hm _ hends

theorem ends_query_array (hp : Overlooks p) (q extra : CharPtr) (hm : o.mysql.isSome) :
    Ends p (query_array env q (-1) extra) o (if env.lib.code ≠ 0 then 0 else 1)
      (o.executed env.lib q.text)
      (if env.lib.code ≠ 0 then
        errorEvents p env (o.executed env.lib q.text) "Failed to exeute query array" (-1) else []) := by
  have hends := ends_orError env hp (env.lib.code ≠ 0) "Failed to exeute query array" 1
    (o.executed env.lib q.text)
  refine .then (ends_freeStored hp o) (.if_neg (not_not_intro rfl) ?_)
  exact ends_synchronous env hp q hm _ hends

end MySQL

namespace QueryThread

variable {N : ℕ} (env : Env) (handle : Fin N) (src : ℕ)

/-- Some statements of the body, from one on. After each of them natives may run on the other thread,
    and change the object (`others`). -/
def execution (others : ℕ → MySQL → MySQL) : ℕ → WorkerStmt → Method Unit
  | 0, _ => pure ()
  | n + 1, stmt => do
    match ← statement env handle src stmt with
    | .scan _ => pure ()
    | .body _ _ next => do
      modify (others n)
      execution others n next

/-- The object when `mysql_real_query` has returned. -/
def answered (q : QueryInfo) (others : ℕ → MySQL → MySQL) (o : MySQL) : MySQL :=
  (others 6 (o.submitting q.query.text)).answered env.lib o.conn

/-- The object when its `state` is tested. -/
def tested (q : QueryInfo) (others : ℕ → MySQL → MySQL) (o : MySQL) : MySQL :=
  others 4 (others 5 (answered env q others o))

variable {env handle src} {p : Event → Bool} {others : ℕ → MySQL → MySQL}

theorem ends_next {n : ℕ} {stmt next : WorkerStmt} {handle' : Fin N} {src' : ℕ} {o o' o'' : MySQL}
    {xs ys : List Event}
    (hstmt : Ends p (statement env handle src stmt) o (.body handle' src' next) o' xs)
    (hrest : Ends p (execution env handle src others n next) (others n o') () o'' ys) :
    Ends p (execution env handle src others (n + 1) stmt) o () o'' (xs ++ ys) :=
  hstmt.bind (.then (.modify p _ o') hrest)

/-- A statement of which nothing is seen. -/
theorem ends_quietly {n : ℕ} {stmt next : WorkerStmt} {handle' : Fin N} {src' : ℕ} {o o' o'' : MySQL}
    {ys : List Event}
    (hstmt : Ends p (statement env handle src stmt) o (.body handle' src' next) o' [])
    (hrest : Ends p (execution env handle src others n next) (others n o') () o'' ys) :
    Ends p (execution env handle src others (n + 1) stmt) o () o'' ys :=
  ends_next hstmt hrest

/-- **One execution of the query thread**: it calls `Error` once if `state` is not zero when it is
    tested, and not at all if it is. -/
theorem ends_execution (env : Env) (handle : Fin N) (src : ℕ) (others : ℕ → MySQL → MySQL)
    (q : QueryInfo) {o : MySQL} (hm : o.mysql.isSome) :
    ∃ o' xs, Ends Event.isError (execution env handle src others 7 (.submit q)) o () o' xs ∧
      xs.length = if (tested env q others o).state ≠ 0 then 1 else 0 := by
  have hp := overlooks_isError
  have hlogged : ∀ (line : String) (next : WorkerStmt) (o : MySQL),
      Ends Event.isError (do
        let this ← get
        MySQL.logAll (line ++ dec this.state ++ "\".")
        return WorkerPc.body handle src next) o (.body handle src next) o [] :=
    fun _ _ o => .get_bind (.then (MySQL.ends_logAll hp _ o) (.pure _ _ o))
  have hsubmit : Ends Event.isError (statement env handle src (.submit q)) o
      (.body handle src (.executing q o.conn)) (o.submitting q.query.text)
      [] :=
    .then (MySQL.ends_client hp hm) (.get_bind (.then (.emit_of_not rfl o)
      (.then (.modify _ _ o) (.pure _ _ _))))
  have hanswer : Ends Event.isError (statement env handle src (.executing q o.conn))
      (others 6 (o.submitting q.query.text))
      (.body handle src (.logExecuted q)) (answered env q others o) [] :=
    .then (.emit_of_not rfl _) (.then (.modify _ _ _) (.pure _ _ _))
  -- the rest, from the test of `state` on
  have hrest : ∃ o' xs, Ends Event.isError (execution env handle src others 4 (.branch q))
      (tested env q others o) () o' xs ∧
        xs.length = if (tested env q others o).state ≠ 0 then 1 else 0 := by
    by_cases hstate : (tested env q others o).state = 0
    · have hbranch : Ends Event.isError (statement env handle src (.branch q))
          (tested env q others o) (.body handle src (.setParsing q q.toThreadInfo))
          (tested env q others o) [] := .get_bind (.if_pos hstate (.pure _ _ _))
      refine ⟨_, _, ends_next hbranch (ends_next (.then (.modify _ _ _) (.pure _ _ _)) (ends_next
        (.get_bind (.then (.emit_of_not rfl _) (.then (.modify _ _ _) (.pure _ _ _))))
        (ends_next (hlogged _ _ _) (.pure _ () _)))), ?_⟩
      rw [if_neg (not_not_intro hstate)]
      rfl
    · have hbranch : Ends Event.isError (statement env handle src (.branch q))
          (tested env q others o) (.body handle src (.clearParsing q)) (tested env q others o) [] :=
        .get_bind (.if_neg hstate (.pure _ _ _))
      refine ⟨_, _, ends_next hbranch (ends_next (.then (.modify _ _ _) (.pure _ _ _)) (ends_next
        (.get_bind (.then (.emit_of_not rfl _) (.before (MySQL.ends_Error hp env _ _ _)
          (.pure _ _ _)))) (ends_next (hlogged _ _ _) (.pure _ () _)))), ?_⟩
      rw [if_pos hstate]
      rfl
  obtain ⟨o', xs, hends, hlength⟩ := hrest
  exact ⟨o', xs, ends_quietly hsubmit (ends_quietly hanswer (ends_quietly (hlogged _ _ _) hends)),
    hlength⟩

end QueryThread

/-! ## Failures are reported -/

/-- `Error` is called once if the library's code is not zero, and not at all if it is. -/
def ReportsExactly {α : Type} (env : Env) (m : Method α) (o : MySQL) : Prop :=
  ∃ a o' xs, Ends Event.isError m o a o' xs ∧ xs.length = if env.lib.code ≠ 0 then 1 else 0

theorem reportsExactly_iff {α : Type} {env : Env} {m : Method α} {o o' : MySQL} {a : α}
    {xs : List Event} (hends : Ends Event.isError m o a o' xs) :
    ReportsExactly env m o ↔ xs.length = if env.lib.code ≠ 0 then 1 else 0 := by
  constructor
  · rintro ⟨a', o₁, xs', ⟨es, hok, hes⟩, hlength⟩
    obtain ⟨-, -, rfl⟩ := hends.unique hok
    rwa [← hes] at hlength
  · exact fun hlength => ⟨a, o', xs, hends, hlength⟩

/-- The number of reports, when `Error` is called exactly if `c`. -/
theorem length_reports {env : Env} {o : MySQL} {error : String} {errid : ℤ} {c : Prop} [Decidable c] :
    ((if c then MySQL.errorEvents Event.isError env o error errid else []).length =
      if env.lib.code ≠ 0 then 1 else 0) ↔ (c ↔ env.lib.code ≠ 0) := by
  have hone : (MySQL.errorEvents Event.isError env o error errid).length = 1 := rfl
  by_cases hc : c <;> by_cases hcode : env.lib.code ≠ 0 <;> simp [hc, hcode, hone]

/-- **Who reports failures exactly**: `select_db` and the two queries always do, `refresh` if a result
    set is stored exactly when it fails, and the query thread if nobody else sets `state` between the
    end of `mysql_real_query` and its test, or at least not to a different verdict. -/
theorem reports_iff (env : Env) (o : MySQL) (hm : o.mysql.isSome) :
    (∀ options, ReportsExactly env (MySQL.refresh env options) o ↔
      (o.result.isSome ↔ env.lib.code ≠ 0)) ∧
    (∀ dbname, ReportsExactly env (MySQL.select_db env dbname) o) ∧
    (∀ query extra, ReportsExactly env (MySQL.query env query (-1) extra) o) ∧
    (∀ query extra, ReportsExactly env (MySQL.query_array env query (-1) extra) o) ∧
    ∀ (N : ℕ) (handle : Fin N) (src : ℕ) (q : QueryInfo) (others : ℕ → MySQL → MySQL),
      (ReportsExactly env (QueryThread.execution env handle src others 7 (.submit q)) o ↔
        ((QueryThread.tested env q others o).state ≠ 0 ↔ env.lib.code ≠ 0)) ∧
      ((∀ i o, (others i o).state = o.state) →
        ReportsExactly env (QueryThread.execution env handle src others 7 (.submit q)) o) := by
  have hp := overlooks_isError
  refine ⟨fun options => ?_, fun dbname => ?_, fun query extra => ?_, fun query extra => ?_,
    fun N handle src q others => ?_⟩
  · rw [reportsExactly_iff (MySQL.ends_refresh env hp options hm)]
    exact length_reports
  · rw [reportsExactly_iff (MySQL.ends_select_db env hp dbname hm)]
    exact length_reports.2 .rfl
  · rw [reportsExactly_iff (MySQL.ends_query env hp query extra hm)]
    exact length_reports.2 .rfl
  · rw [reportsExactly_iff (MySQL.ends_query_array env hp query extra hm)]
    exact length_reports.2 .rfl
  · obtain ⟨o', xs, hends, hlength⟩ :=
      QueryThread.ends_execution env handle src others q hm
    have hiff : ReportsExactly env (QueryThread.execution env handle src others 7 (.submit q)) o ↔
        ((QueryThread.tested env q others o).state ≠ 0 ↔ env.lib.code ≠ 0) := by
      rw [reportsExactly_iff hends, hlength]
      by_cases hstate : (QueryThread.tested env q others o).state ≠ 0 <;>
        by_cases hcode : env.lib.code ≠ 0 <;> simp [hstate, hcode]
    refine ⟨hiff, fun hquiet => hiff.2 ?_⟩
    have hstate : (QueryThread.tested env q others o).state = env.lib.code := by
      rw [QueryThread.tested, hquiet, hquiet]
      rfl
    rw [hstate]

namespace OneHandle

/-- A connection on which a result set is stored. -/
def stored : MySQL :=
  ⟨0, 0, some ⟨some "S", none, 1⟩, some ⟨0, ⟨["a"], []⟩, 0⟩, none, none, true, 0, 0, false, true,
    [], []⟩

/-- A library that succeeds. -/
def succeeding : Env := ⟨{}, []⟩

/-- All five on that connection, when the library succeeds. -/
theorem reports_of_success :
    (∀ options, ReportsExactly succeeding (MySQL.refresh succeeding options) stored ↔
      (stored.result.isSome ↔ succeeding.lib.code ≠ 0)) ∧
    (∀ dbname, ReportsExactly succeeding (MySQL.select_db succeeding dbname) stored) ∧
    (∀ query extra, ReportsExactly succeeding (MySQL.query succeeding query (-1) extra) stored) ∧
    (∀ query extra,
      ReportsExactly succeeding (MySQL.query_array succeeding query (-1) extra) stored) ∧
    ∀ (N : ℕ) (handle : Fin N) (src : ℕ) (q : QueryInfo) (others : ℕ → MySQL → MySQL),
      (ReportsExactly succeeding
          (QueryThread.execution succeeding handle src others 7 (.submit q)) stored ↔
        ((QueryThread.tested succeeding q others stored).state ≠ 0 ↔ succeeding.lib.code ≠ 0)) ∧
      ((∀ i o, (others i o).state = o.state) →
        ReportsExactly succeeding
          (QueryThread.execution succeeding handle src others 7 (.submit q)) stored) :=
  reports_iff succeeding stored rfl

/-- `mysql_refresh` succeeds there, and reports that it failed. -/
theorem success_reported :
    ¬ ∀ (env : Env) (o : MySQL) (options : Cell), o.mysql.isSome →
      ReportsExactly env (MySQL.refresh env options) o := by
  intro hall
  obtain ⟨a, o', xs, ⟨es, hok, hes⟩, hlength⟩ := hall succeeding stored 0 rfl
  cases hok
  rw [← hes] at hlength
  exact absurd hlength (by decide)

end OneHandle

/-! ## Success and failure seen by a script -/

namespace Natives

variable {N : ℕ} {env env' : Env} {amx : Memory} {params : List Cell} {w : World N} {h : Fin N}
  {o : MySQL} {p : Event → Bool}

theorem ends_n_mysql_query (env : Env) (amx : Memory) (hp : Overlooks p)
    (hon : OnConnection params 4 4 w h o) (hsync : param params 2 = -1) :
    ∃ w' xs, Ends p (n_mysql_query env amx params) w 0 w' xs ∧
      w'.my h = some (o.executed env.lib (textAt (amx (param params 1)))) := by
  have hquery := MySQL.ends_query env hp ⟨w.created, textAt (amx (param params 1))⟩
    (param params 3) hon.mysql
  rw [← hsync] at hquery
  refine ⟨_, _, ends_check hon (.then (ends_GetString hp amx _ w) (ends_call ?_ hquery)), ?_⟩
  · exact hon.object
  · exact Function.update_self ..

theorem ends_n_mysql_query_array (env : Env) (amx : Memory) (hp : Overlooks p)
    (hon : OnConnection params 4 4 w h o) (hsync : param params 2 = -1) :
    ∃ w' xs, Ends p (n_mysql_query_array env amx params) w (if env.lib.code ≠ 0 then 0 else 1) w' xs ∧
      w'.my h = some (o.executed env.lib (textAt (amx (param params 1)))) := by
  have hquery := MySQL.ends_query_array env hp ⟨w.created, textAt (amx (param params 1))⟩
    ⟨w.created + 1, textAt (amx (param params 3))⟩ hon.mysql
  rw [← hsync] at hquery
  refine ⟨_, _, ends_check hon (.then (ends_GetString hp amx _ w)
    (.then (ends_GetString hp amx _ _) (ends_call ?_ hquery))), ?_⟩
  · exact hon.object
  · exact Function.update_self ..

theorem ends_n_mysql_select_db (env : Env) (amx : Memory) (hp : Overlooks p)
    (hon : OnConnection params 2 2 w h o) :
    ∃ w' xs, Ends p (n_mysql_select_db env amx params) w 0 w' xs := by
  have hselect := MySQL.ends_select_db env hp (textAt (amx (param params 1))) hon.mysql
  refine ⟨_, _, ends_check hon (.then (ends_GetString hp amx _ w) (.before (ends_call ?_ hselect)
    (.then (ends_safeDelete hp _ _) (.pure p 0 _))))⟩
  exact hon.object

theorem ends_n_mysql_refresh (env : Env) (hp : Overlooks p) (hon : OnConnection params 2 2 w h o) :
    ∃ w' xs, Ends p (n_mysql_refresh env params) w
      (if o.result.isSome then 0 else env.lib.code) w' xs :=
  ⟨_, _, ends_check hon (ends_call hon.object (MySQL.ends_refresh env hp _ hon.mysql))⟩

/-- The two runs, one for each environment, return different values. -/
def TellsApart (native : Env → Native N Cell) (w : World N) (env env' : Env) : Prop :=
  ∃ r r' w₁ w₂ xs ys, Ends unseen (native env) w r w₁ xs ∧ Ends unseen (native env') w r' w₂ ys ∧
    r ≠ r'

theorem tellsApart_iff (native : Env → Native N Cell) {r r' : Cell} {w₁ w₂ : World N}
    {xs ys : List Event} (h₁ : Ends unseen (native env) w r w₁ xs)
    (h₂ : Ends unseen (native env') w r' w₂ ys) : TellsApart native w env env' ↔ r ≠ r' := by
  constructor
  · rintro ⟨_, _, _, _, _, _, ⟨es, hok, -⟩, ⟨es', hok', -⟩, hne⟩
    obtain ⟨rfl, -, -⟩ := h₁.unique hok
    obtain ⟨rfl, -, -⟩ := h₂.unique hok'
    exact hne
  · exact fun hne => ⟨r, r', w₁, w₂, xs, ys, h₁, h₂, hne⟩

/-- `mysql_query` and `mysql_query_array` leave the same result and state, and return the same value
    exactly if the statement fails. -/
def Agree (amx : Memory) (params : List Cell) (w : World N) (h : Fin N) (env : Env) : Prop :=
  ∃ r r' w₁ w₂ o₁ o₂ xs ys, Ends unseen (n_mysql_query env amx params) w r w₁ xs ∧
    Ends unseen (n_mysql_query_array env amx params) w r' w₂ ys ∧
    w₁.my h = some o₁ ∧ w₂.my h = some o₂ ∧ o₁.result = o₂.result ∧ o₁.state = o₂.state ∧
    (r = r' ↔ env.lib.code ≠ 0)

theorem agree (hon : OnConnection params 4 4 w h o) (hsync : param params 2 = -1) (env : Env) :
    Agree amx params w h env := by
  obtain ⟨w₁, xs, h₁, ho₁⟩ := ends_n_mysql_query env amx overlooks_unseen hon hsync
  obtain ⟨w₂, ys, h₂, ho₂⟩ :=
    ends_n_mysql_query_array env amx overlooks_unseen hon hsync
  refine ⟨_, _, w₁, w₂, _, _, xs, ys, h₁, h₂, ho₁, ho₂, rfl, rfl, ?_⟩
  by_cases hcode : env.lib.code ≠ 0 <;> simp [hcode]

/-- **What a script can tell**: the two outcomes of a `mysql_query_array` always, those of a
    `mysql_refresh` if no result set is stored, those of a `mysql_query` or a `mysql_select_db`
    never. -/
theorem tells_apart_iff {query db options : List Cell} (hquery : OnConnection query 4 4 w h o)
    (hsync : param query 2 = -1) (hdb : OnConnection db 2 2 w h o)
    (hoptions : OnConnection options 2 2 w h o) (hok : env.lib.code = 0)
    (hfailed : env'.lib.code ≠ 0) :
    ¬ TellsApart (n_mysql_query · amx query) w env env' ∧
    TellsApart (n_mysql_query_array · amx query) w env env' ∧
    ¬ TellsApart (n_mysql_select_db · amx db) w env env' ∧
    (TellsApart (n_mysql_refresh · options) w env env' ↔ o.result = none) ∧
    ∀ env'' : Env, Agree amx query w h env'' := by
  have hp := overlooks_unseen
  refine ⟨?_, ?_, ?_, ?_, agree hquery hsync⟩
  · obtain ⟨_, _, h₁, -⟩ := ends_n_mysql_query env amx hp hquery hsync
    obtain ⟨_, _, h₂, -⟩ := ends_n_mysql_query env' amx hp hquery hsync
    rw [tellsApart_iff (n_mysql_query · amx query) h₁ h₂]
    exact not_not_intro rfl
  · obtain ⟨_, _, h₁, -⟩ := ends_n_mysql_query_array env amx hp hquery hsync
    obtain ⟨_, _, h₂, -⟩ := ends_n_mysql_query_array env' amx hp hquery hsync
    rw [tellsApart_iff (n_mysql_query_array · amx query) h₁ h₂]
    simp [hok, hfailed]
  · obtain ⟨_, _, h₁⟩ := ends_n_mysql_select_db env amx hp hdb
    obtain ⟨_, _, h₂⟩ := ends_n_mysql_select_db env' amx hp hdb
    rw [tellsApart_iff (n_mysql_select_db · amx db) h₁ h₂]
    exact not_not_intro rfl
  · obtain ⟨_, _, h₁⟩ := ends_n_mysql_refresh env hp hoptions
    obtain ⟨_, _, h₂⟩ := ends_n_mysql_refresh env' hp hoptions
    rw [tellsApart_iff (n_mysql_refresh · options) h₁ h₂]
    cases o.result with
    | none => simpa [hok] using hfailed.symm
    | some res => simp

namespace OneHandle

open MysqlPlugin.OneHandle

/-- The handle of the connection, for a script whose strings are all `S`. -/
def world : World 1 := ⟨fun _ => some stored, [], 0⟩

/-- A library that fails. -/
def failing : Env := ⟨{ code := 1 }, []⟩

theorem tells_apart_when_stored :
    ¬ TellsApart (n_mysql_query · Script.memory [16, 0, -1, 0, 0]) world succeeding failing ∧
    TellsApart (n_mysql_query_array · Script.memory [16, 0, -1, 0, 0]) world succeeding failing ∧
    ¬ TellsApart (n_mysql_select_db · Script.memory [8, 0, 0]) world succeeding failing ∧
    (TellsApart (n_mysql_refresh · [8, 0, 0]) world succeeding failing ↔ stored.result = none) ∧
    ∀ env'' : Env, Agree Script.memory [16, 0, -1, 0, 0] world 0 env'' :=
  tells_apart_iff ⟨rfl, rfl, rfl, rfl⟩ rfl ⟨rfl, rfl, rfl, rfl⟩ ⟨rfl, rfl, rfl, rfl⟩ rfl (by decide)

/-- `mysql_query` returns 0 in both runs. -/
theorem failed_query_untold :
    ¬ ∀ (N : ℕ) (w : World N) (h : Fin N) (o : MySQL) (env env' : Env) (amx : Memory)
      (params : List Cell), OnConnection params 4 4 w h o → param params 2 = -1 →
        env.lib.code = 0 → env'.lib.code ≠ 0 →
          TellsApart (n_mysql_query · amx params) w env env' := by
  intro hall
  obtain ⟨r, r', w₁, w₂, xs, ys, ⟨es, hok, -⟩, ⟨es', hok', -⟩, hne⟩ :=
    hall 1 world 0 stored succeeding failing Script.memory [16, 0, -1, 0, 0]
      ⟨rfl, rfl, rfl, rfl⟩ rfl rfl
      (by decide)
  cases hok
  cases hok'
  exact hne rfl

end OneHandle

end Natives

/-! ## Strings of the library -/

/-- What the library answers to the call behind a native that hands the answer to the script. -/
def NativeName.answer (lib : Answers) : NativeName → Option (Option String)
  | .mysql_error => some (some lib.error)
  | .mysql_info | .mysql_stat | .mysql_get_character_set => some lib.text
  | .mysql_get_server_info => some lib.serverInfo
  | .mysql_get_host_info => some lib.hostInfo
  | _ => none

theorem MySQL.ends_askText {p : Event → Bool} (hp : Overlooks p) (function logged : String)
    (answer : Option String) {o : MySQL} (hm : o.mysql.isSome) :
    Ends p (MySQL.askText function logged answer) o answer o [] :=
  .then (MySQL.ends_client hp hm) (.then (MySQL.ends_logAll hp _ o) (.pure p answer o))

namespace Natives

variable {N : ℕ} {env : Env} {amx : Memory} {params : List Cell} {w : World N} {h : Fin N}
  {o : MySQL} {answer : Option String}

/-- The six natives have one frame. -/
theorem function_eq_tellString (N : ℕ) (amx : Memory) (params : List Cell) {name : NativeName}
    (hanswer : name.answer env.lib = some answer) :
    ∃ label function logged, (name.function env amx params : Native N Cell) =
      tellString env params label (MySQL.askText function logged answer) := by
  cases name with
  | mysql_error | mysql_info | mysql_stat | mysql_get_server_info | mysql_get_host_info
    | mysql_get_character_set =>
      cases hanswer
      exact ⟨_, _, _, rfl⟩
  | _ => cases hanswer

/-- The native returns 1 with the string in its destination if there is one that is not empty, and 0
    otherwise, and no `NULL` string is read. -/
def GivesAnswer (native : Native N Cell) (w : World N) (addr : Cell) (answer : Option String) :
    Prop :=
  ∃ r w' written, Ends Event.isSetString native w r w' written ∧
    if answer.getD "" ≠ "" then r = 1 ∧ written = [.setString addr (answer.getD "")] else r = 0

/-- **When a string of the library is told**: exactly if the library answers with a string, and not
    with one of a single character. -/
theorem gives_answer_iff {name : NativeName} (hanswer : name.answer env.lib = some answer)
    (hon : OnConnection params 2 2 w h o) :
    GivesAnswer (name.function env amx params) w (param params 1) answer ↔
      ∃ text, answer = some text ∧ text.length ≠ 1 := by
  obtain ⟨label, function, logged, hframe⟩ := function_eq_tellString N amx params hanswer
  have hask := MySQL.ends_askText overlooks_isSetString function logged answer hon.mysql
  rw [hframe]
  cases answer with
  | none =>
      -- `SetString` reads the string before it is tested
      constructor
      · rintro ⟨r, w', written, ⟨es, hok, -⟩, -⟩
        rw [tellString, onConnection, check_eq_rest hon] at hok
        obtain ⟨string, w₁, es₁, es₂, hcall, hrest, -⟩ := bind_eq_ok.1 hok
        obtain ⟨o₁, o', ho, hasked, -⟩ := call_eq_ok.1 hcall
        obtain rfl := Option.some.inj (hon.object.symm.trans ho)
        obtain ⟨rfl, -, -⟩ := hask.unique hasked
        cases hrest
      · rintro ⟨text, htext, -⟩
        cases htext
  | some text =>
      have hends : Ends Event.isSetString
          (tellString env params label (MySQL.askText function logged (some text))) w
          (if text.length > 1 then 1 else 0) (w.set h (some o)) [.setString (param params 1) text] :=
        ends_check hon (.then (ends_call hon.object hask)
          (.before (ends_SetString _ (param params 1) text _) (.pure _ _ _)))
      have hempty : text.length = 0 ↔ text = "" := String.length_eq_zero_iff
      constructor
      · rintro ⟨r, w', written, ⟨es, hok, -⟩, htold⟩
        obtain ⟨rfl, -, -⟩ := hends.unique hok
        refine ⟨text, rfl, fun hone => ?_⟩
        have hne : text ≠ "" := fun heq => by
          rw [hempty.2 heq] at hone
          cases hone
        rw [Option.getD_some, if_pos hne, hone] at htold
        exact absurd htold.1 (by decide)
      · rintro ⟨text', htext, hlength⟩
        cases htext
        refine ⟨_, _, _, hends, ?_⟩
        by_cases hne : text ≠ ""
        · have hlong : 1 < text.length := by
            have hpos := hempty.not.2 hne
            omega
          rw [Option.getD_some, if_pos hne, if_pos hlong]
          exact ⟨rfl, rfl⟩
        · rw [Option.getD_some, if_neg hne, hempty.2 (not_ne_iff.1 hne)]
          rfl

namespace OneHandle

open MysqlPlugin.OneHandle

/-- A server version of one character. -/
def versioned : Env := ⟨{ serverInfo := some "5" }, []⟩

theorem server_info_gives_answer :
    GivesAnswer (NativeName.mysql_get_server_info.function versioned Script.memory [8, 7, 0]) world 7
        (some "5") ↔ ∃ text, some "5" = some text ∧ text.length ≠ 1 :=
  gives_answer_iff (h := 0) (o := stored) rfl ⟨rfl, rfl, rfl, rfl⟩

/-- The library answers `mysql_info` with `NULL` after most statements. -/
theorem null_info_is_read :
    ¬ ∀ (N : ℕ) (w : World N) (h : Fin N) (o : MySQL) (name : NativeName) (env : Env) (amx : Memory)
      (params : List Cell) (answer : Option String), name.answer env.lib = some answer →
        OnConnection params 2 2 w h o →
          GivesAnswer (name.function env amx params) w (param params 1) answer := by
  intro hall
  obtain ⟨r, w', written, ⟨es, hok, -⟩, -⟩ :=
    hall 1 world 0 stored .mysql_info ⟨{ text := none }, []⟩ Script.memory [8, 7, 0] none rfl
      ⟨rfl, rfl, rfl, rfl⟩
  cases hok

end OneHandle

end Natives

end MysqlPlugin
