import IgaScheduler.BrokerClients

namespace IgaScheduler

/-!
# Whether the two SDKs speak the same proxy protocol

The Python client posts to `IGA_BROKER_URL` itself, where the JavaScript client
adds the path of the proxy route, so the two agree only as long as neither gets
to send a request: while the metadata server refuses every token.
-/

namespace BrokerSession

variable {κ : Type}

/-- A session has gone on, and what it has sent since has the property. -/
def Sends
    (property : ProxyRequest → Prop)
    (before after : BrokerSession κ) :
    Prop :=
  ∃ requests,
    after.sent = before.sent ++ requests ∧
      ∀ request ∈ requests, property request

namespace Sends

variable {property : ProxyRequest → Prop}

theorem of_eq
    {before after : BrokerSession κ}
    (same : after.sent = before.sent) :
    Sends property before after :=
  ⟨[], by rw [same, List.append_nil], by simp⟩

theorem trans
    {first second third : BrokerSession κ}
    (earlier : Sends property first second)
    (later : Sends property second third) :
    Sends property first third := by
  obtain ⟨sent, shape, known⟩ := earlier
  obtain ⟨more, shapeMore, knownMore⟩ := later
  refine ⟨sent ++ more, ?_, ?_⟩
  · rw [shapeMore, shape, List.append_assoc]
  · intro request member
    rcases List.mem_append.mp member with inFirst | inSecond
    · exact known request inFirst
    · exact knownMore request inSecond

theorem post
    (server : BrokerServer)
    {before session : BrokerSession κ}
    {request : ProxyRequest}
    (sent : Sends property before session)
    (known : property request) :
    Sends property before (session.post server request).2 := by
  refine sent.trans ⟨[request], rfl, ?_⟩
  intro other member
  rw [List.mem_singleton.mp member]
  exact known

/-- What every call sends, a sequence of calls sends. -/
theorem run
    {execute :
      BrokerSession κ →
        ExecuteCall →
        ExecuteOutcome × BrokerSession κ}
    (each :
      ∀ session call, Sends property session (execute session call).2)
    (session : BrokerSession κ)
    (calls : List ExecuteCall) :
    Sends property session (BrokerSession.run execute session calls).2 := by
  induction calls generalizing session with
  | nil =>
      exact of_eq rfl
  | cons call rest inductionHypothesis =>
      exact (each session call).trans (inductionHypothesis _)

theorem length_le
    {before after : BrokerSession κ}
    (sent : Sends property before after) :
    before.sent.length ≤ after.sent.length := by
  obtain ⟨requests, shape, -⟩ := sent
  rw [shape, List.length_append]
  exact Nat.le_add_right _ _

end Sends

end BrokerSession

/-- The metadata server gives no token, and says so. -/
def TokenReply.refused : TokenReply → Bool
  | .answered status _ => PythonSdk.isError status
  | .failed => true

/-- Calls that are refused their tokens fail one by one and send nothing. -/
theorem BrokerSession.run_refused
    {κ : Type}
    {execute :
      BrokerSession κ →
        ExecuteCall →
        ExecuteOutcome × BrokerSession κ}
    {server : BrokerServer}
    (uncached : κ → Prop)
    (each :
      ∀ (session : BrokerSession κ) (call : ExecuteCall),
        uncached session.cached →
        (server.tokens session.fetched).refused = true →
        execute session call =
          (.failed, { session with fetched := session.fetched + 1 }))
    {session : BrokerSession κ}
    (calls : List ExecuteCall)
    (empty : uncached session.cached)
    (refused :
      ∀ i < calls.length,
        (server.tokens (session.fetched + i)).refused = true) :
    BrokerSession.run execute session calls =
      (List.replicate calls.length .failed,
        { session with fetched := session.fetched + calls.length }) := by
  induction calls generalizing session with
  | nil =>
      rfl
  | cons call rest inductionHypothesis =>
      have first := refused 0 (Nat.zero_lt_succ _)
      have later :
          ∀ i < rest.length,
            (server.tokens (session.fetched + 1 + i)).refused = true := by
        intro i bound
        rw [Nat.add_assoc, Nat.add_comm 1 i]
        exact refused (i + 1) (Nat.succ_lt_succ bound)
      rw [BrokerSession.run, each session call empty first]
      dsimp only
      rw [@inductionHypothesis
        { session with fetched := session.fetched + 1 } empty later]
      simp only [List.length_cons, List.replicate_succ, Nat.add_assoc,
        Nat.add_comm 1]

namespace SchedulerSdk

variable (payload : String → Option Json) (environment : BrokerEnvironment)
  (server : BrokerServer)

theorem sent_refresh
    (session : Session)
    (now : Timestamp) :
    (refresh payload server session now).2.sent = session.sent := by
  unfold refresh
  split <;> rfl

theorem sent_getToken
    (session : Session)
    (now : Timestamp) :
    (getToken payload server session now).2.sent = session.sent := by
  unfold getToken
  split
  · split
    · rfl
    · exact sent_refresh payload server session now
  · exact sent_refresh payload server session now

theorem request_sends
    (session : Session)
    (call : ExecuteCall)
    (token : String) :
    BrokerSession.Sends
      (fun request => request.url = requestUrl environment)
      session (request payload environment server session call token).2 := by
  have posted :
      BrokerSession.Sends
        (fun request => request.url = requestUrl environment) session
        (session.post server (proxyRequest environment call token)).2 :=
    BrokerSession.Sends.post server (.of_eq rfl) rfl
  unfold request
  generalize session.post server (proxyRequest environment call token) =
    first at posted ⊢
  obtain ⟨reply, answered⟩ := first
  dsimp only at posted ⊢
  split
  · have asked :
        BrokerSession.Sends
          (fun request => request.url = requestUrl environment) session
          (getToken payload server { answered with cached := none }
            call.retriedAt).2 :=
      posted.trans (.of_eq (sent_getToken payload server _ _))
    generalize getToken payload server { answered with cached := none }
      call.retriedAt = second at asked ⊢
    obtain ⟨freshToken, refreshed⟩ := second
    cases freshToken with
    | none =>
        exact asked
    | some freshToken =>
        exact asked.post server rfl
  · exact posted

/-- Every request goes to the route of the proxy. -/
theorem execute_sends
    (session : Session)
    (call : ExecuteCall) :
    BrokerSession.Sends
      (fun request => request.url = requestUrl environment)
      session (execute payload environment server session call).2 := by
  have asked :
      BrokerSession.Sends
        (fun request => request.url = requestUrl environment) session
        (getToken payload server session call.calledAt).2 :=
    .of_eq (sent_getToken payload server session call.calledAt)
  unfold execute
  generalize getToken payload server session call.calledAt = got
    at asked ⊢
  obtain ⟨token, refreshed⟩ := got
  cases token with
  | none =>
      exact asked
  | some token =>
      exact asked.trans (request_sends payload environment server refreshed call token)

/-- The route of the proxy is not the broker's URL, however that is written. -/
theorem requestUrl_ne (environment : BrokerEnvironment) :
    requestUrl environment ≠ environment.brokerUrl := by
  intro same
  have letters := congrArg String.toList same
  rw [requestUrl, String.toList_append, stripTrailingSlashes,
    String.toList_ofList] at letters
  generalize environment.brokerUrl.toList = url at letters
  have split :
      (url.reverse.dropWhile fun letter => letter = '/').reverse ++
          (url.reverse.takeWhile fun letter => letter = '/').reverse =
        url := by
    rw [← List.reverse_append, List.takeWhile_append_dropWhile,
      List.reverse_reverse]
  have path := List.append_cancel_left (letters.trans split.symm)
  have letter : 'i' ∈ "/internal/runtime/iga/request".toList := by
    decide
  rw [path, List.mem_reverse] at letter
  have slash := List.mem_takeWhile_imp letter
  revert slash
  decide

end SchedulerSdk

namespace PythonSdk

variable (payload : String → Option Json) (environment : BrokerEnvironment)
  (server : BrokerServer)

theorem sent_fetchToken
    (session : Session)
    (now : Timestamp) :
    (fetchToken payload server session now).2.sent = session.sent := by
  unfold fetchToken
  split
  · rfl
  · split <;> rfl

theorem sent_getToken
    (session : Session)
    (now : Timestamp) :
    (getToken payload server session now).2.sent = session.sent := by
  unfold getToken
  split
  · exact sent_fetchToken payload server session now
  · split
    · exact sent_fetchToken payload server session now
    · split
      · rfl
      · split
        · exact sent_fetchToken payload server session now
        · rfl

/-- Every request goes to the broker's URL as it stands. -/
theorem execute_sends
    (session : Session)
    (call : ExecuteCall) :
    BrokerSession.Sends
      (fun request => request.url = environment.brokerUrl)
      session (execute payload environment server session call).2 := by
  have asked :
      BrokerSession.Sends
        (fun request => request.url = environment.brokerUrl) session
        (getToken payload server session call.calledAt).2 :=
    .of_eq (sent_getToken payload server session call.calledAt)
  unfold execute
  generalize getToken payload server session call.calledAt = got
    at asked ⊢
  obtain ⟨token, refreshed⟩ := got
  cases token with
  | none =>
      exact asked
  | some token =>
      have posted :
          BrokerSession.Sends
            (fun request => request.url = environment.brokerUrl) session
            (refreshed.post server
              (proxyRequest environment call token)).2 :=
        asked.post server rfl
      dsimp only
      generalize refreshed.post server
        (proxyRequest environment call token) = first at posted ⊢
      obtain ⟨reply, answered⟩ := first
      dsimp only at posted ⊢
      split
      · have again :
            BrokerSession.Sends
              (fun request => request.url = environment.brokerUrl) session
              (getToken payload server
                { answered with
                  cached := ⟨none, answered.cached.tokenExp⟩ }
                call.retriedAt).2 :=
          posted.trans (.of_eq (sent_getToken payload server _ _))
        generalize getToken payload server
          { answered with cached := ⟨none, answered.cached.tokenExp⟩ }
          call.retriedAt = second at again ⊢
        obtain ⟨fresh, final⟩ := second
        cases fresh with
        | none =>
            exact again
        | some fresh =>
            exact again.post server rfl
      · exact posted

end PythonSdk

namespace SchedulerSdk

/-- Without a token a call fails and sends nothing. -/
theorem execute_refused
    (payload : String → Option Json)
    (environment : BrokerEnvironment)
    (server : BrokerServer)
    (session : Session)
    (call : ExecuteCall)
    (uncached : session.cached = none)
    (refused : (server.tokens session.fetched).refused = true) :
    execute payload environment server session call =
      (.failed, { session with fetched := session.fetched + 1 }) := by
  have noToken : fetchOidcToken (server.tokens session.fetched) = none := by
    cases reply : server.tokens session.fetched with
    | failed =>
        rfl
    | answered status text =>
        rw [reply] at refused
        simp only [TokenReply.refused, PythonSdk.isError,
          Bool.and_eq_true, decide_eq_true_eq] at refused
        refine if_neg ?_
        omega
  simp only [execute, getToken, uncached, refresh, noToken]

end SchedulerSdk

namespace PythonSdk

variable (payload : String → Option Json) (environment : BrokerEnvironment)
  (server : BrokerServer)

theorem execute_refused
    (session : Session)
    (call : ExecuteCall)
    (uncached : session.cached.token = none)
    (refused : (server.tokens session.fetched).refused = true) :
    execute payload environment server session call =
      (.failed, { session with fetched := session.fetched + 1 }) := by
  have noToken :
      fetchToken payload server session call.calledAt =
        (none, { session with fetched := session.fetched + 1 }) := by
    unfold fetchToken
    cases reply : server.tokens session.fetched with
    | failed =>
        rfl
    | answered status text =>
        rw [reply] at refused
        exact if_pos refused
  simp only [execute, getToken, uncached, noToken]

/-- With a token a call sends a request. -/
theorem execute_accepted
    (session : Session)
    (call : ExecuteCall)
    (uncached : session.cached.token = none)
    (accepted : (server.tokens session.fetched).refused = false) :
    session.sent.length <
      (execute payload environment server session call).2.sent.length := by
  obtain ⟨token, fetched⟩ :
      ∃ token,
        (getToken payload server session call.calledAt).1 = some token := by
    unfold getToken
    rw [uncached]
    dsimp only
    unfold fetchToken
    cases reply : server.tokens session.fetched with
    | failed =>
        rw [reply] at accepted
        cases accepted
    | answered status text =>
        rw [reply] at accepted
        change isError status = false at accepted
        simp only [accepted, Bool.false_eq_true, if_false]
        exact ⟨_, rfl⟩
  have kept := sent_getToken payload server session call.calledAt
  unfold execute
  generalize getToken payload server session call.calledAt = got
    at fetched kept ⊢
  obtain ⟨_, refreshed⟩ := got
  cases fetched
  dsimp only at kept ⊢
  rw [← kept]
  have posted :
      refreshed.sent.length <
        (refreshed.post server
          (proxyRequest environment call token)).2.sent.length := by
    simp [BrokerSession.post]
  generalize refreshed.post server (proxyRequest environment call token) =
    first at posted ⊢
  obtain ⟨reply, answered⟩ := first
  dsimp only at posted ⊢
  split
  · have asked :=
      sent_getToken payload server
        { answered with cached := ⟨none, answered.cached.tokenExp⟩ }
        call.retriedAt
    generalize getToken payload server
      { answered with cached := ⟨none, answered.cached.tokenExp⟩ }
      call.retriedAt = second at asked ⊢
    obtain ⟨fresh, again⟩ := second
    dsimp only at asked
    cases fresh with
    | none =>
        dsimp only
        rw [asked]
        exact posted
    | some fresh =>
        simp only [BrokerSession.post, List.length_append, asked]
        omega
  · exact posted

/-- A client that has sent nothing has been refused every token. -/
theorem refused_of_silent
    {session : Session}
    (calls : List ExecuteCall)
    (uncached : session.cached.token = none)
    (silent :
      (BrokerSession.run (execute payload environment server) session
        calls).2.sent = session.sent) :
    ∀ i < calls.length,
      (server.tokens (session.fetched + i)).refused = true := by
  induction calls generalizing session with
  | nil =>
      intro i impossible
      cases impossible
  | cons call rest inductionHypothesis =>
      rw [BrokerSession.run] at silent
      dsimp only at silent
      have first : (server.tokens session.fetched).refused = true := by
        by_contra accepted
        have longer :=
          execute_accepted payload environment server session call uncached
            (by simpa using accepted)
        have kept :=
          (BrokerSession.Sends.run
            (execute_sends payload environment server)
            (execute payload environment server session call).2
            rest).length_le
        rw [silent] at kept
        omega
      rw [execute_refused payload environment server session call uncached
        first] at silent
      intro i bound
      cases i with
      | zero =>
          exact first
      | succ i =>
          have later :=
            @inductionHypothesis
              { session with fetched := session.fetched + 1 } uncached
              silent i (Nat.lt_of_succ_lt_succ bound)
          rwa [Nat.add_comm i 1, ← Nat.add_assoc]

end PythonSdk

/-- What a new JavaScript client makes of the calls. -/
def SchedulerSdk.converse
    (payload : String → Option Json)
    (environment : BrokerEnvironment)
    (server : BrokerServer)
    (calls : List ExecuteCall) :
    List ExecuteOutcome × SchedulerSdk.Session :=
  BrokerSession.run (SchedulerSdk.execute payload environment server)
    SchedulerSdk.initial calls

/-- What a new Python client makes of the calls. -/
def PythonSdk.converse
    (payload : String → Option Json)
    (environment : BrokerEnvironment)
    (server : BrokerServer)
    (calls : List ExecuteCall) :
    List ExecuteOutcome × PythonSdk.Session :=
  BrokerSession.run (PythonSdk.execute payload environment server)
    PythonSdk.initial calls

/-- Both clients send the same requests and end every call alike. -/
def SpeakAlike
    (javascriptPayload pythonPayload : String → Option Json)
    (environment : BrokerEnvironment)
    (server : BrokerServer)
    (calls : List ExecuteCall) :
    Prop :=
  (PythonSdk.converse pythonPayload environment server calls).2.sent =
      (SchedulerSdk.converse javascriptPayload environment server
        calls).2.sent ∧
    (PythonSdk.converse pythonPayload environment server calls).1 =
      (SchedulerSdk.converse javascriptPayload environment server calls).1

/--
The two clients speak alike exactly as long as the metadata server refuses the
token that each call asks for, so that neither sends a request.
-/
theorem speak_alike_iff
    (javascriptPayload pythonPayload : String → Option Json)
    (environment : BrokerEnvironment)
    (server : BrokerServer)
    (calls : List ExecuteCall) :
    SpeakAlike javascriptPayload pythonPayload environment server calls ↔
      ∀ i < calls.length, (server.tokens i).refused = true := by
  constructor
  · rintro ⟨sameRequests, -⟩
    have pythonSends :=
      BrokerSession.Sends.run
        (PythonSdk.execute_sends pythonPayload environment server)
        PythonSdk.initial calls
    have javascriptSends :=
      BrokerSession.Sends.run
        (SchedulerSdk.execute_sends javascriptPayload environment server)
        SchedulerSdk.initial calls
    obtain ⟨requests, sent, posted⟩ := pythonSends
    obtain ⟨others, sentOthers, postedOthers⟩ := javascriptSends
    change (PythonSdk.converse _ _ _ _).2.sent = _ at sent
    change (SchedulerSdk.converse _ _ _ _).2.sent = _ at sentOthers
    have same : requests = others := by
      rw [sent, sentOthers] at sameRequests
      exact List.append_cancel_left sameRequests
    have silent : requests = [] := by
      refine List.eq_nil_iff_forall_not_mem.mpr fun request member => ?_
      refine SchedulerSdk.requestUrl_ne environment ?_
      rw [← posted request member]
      exact (postedOthers request (same ▸ member)).symm
    have refused :=
      @PythonSdk.refused_of_silent pythonPayload environment server
        PythonSdk.initial calls rfl (by rw [silent] at sent; exact sent)
    intro i bound
    have known := refused i bound
    change (server.tokens (0 + i)).refused = true at known
    rwa [Nat.zero_add] at known
  · intro refused
    have fromStart :
        ∀ i < calls.length, (server.tokens (0 + i)).refused = true := by
      intro i bound
      rw [Nat.zero_add]
      exact refused i bound
    have python :
        PythonSdk.converse pythonPayload environment server calls =
          (List.replicate calls.length .failed,
            { PythonSdk.initial with fetched := 0 + calls.length }) :=
      BrokerSession.run_refused
        (fun (cached : PythonSdk.Token) => cached.token = none)
        (PythonSdk.execute_refused pythonPayload environment server) calls
        rfl fromStart
    have javascript :
        SchedulerSdk.converse javascriptPayload environment server calls =
          (List.replicate calls.length .failed,
            { SchedulerSdk.initial with fetched := 0 + calls.length }) :=
      BrokerSession.run_refused
        (fun (cached : Option SchedulerSdk.CachedToken) => cached = none)
        (SchedulerSdk.execute_refused javascriptPayload environment server)
        calls rfl fromStart
    rw [SpeakAlike, python, javascript]
    exact ⟨rfl, rfl⟩

/-- The environment of a job. -/
def nightlyEnvironment : BrokerEnvironment where
  brokerUrl := "https://scheduler.example"
  runId := "nightly:manual:a"
  dispatchId := "first"

/-- Every token and every request is granted. -/
def grantingServer : BrokerServer where
  tokens _ := .answered 200 "token"
  replies _ := .answered 200
    (some (.obj [("ok", .bool true), ("result", .str "pong")]))

/-- A single call that the server grants. -/
def pingCall : ExecuteCall where
  method := "GET"
  path := "/info/ping"
  body := .null
  calledAt := 0
  retriedAt := 0

/-- A granted call makes the two clients differ, whatever the token says. -/
theorem pingCall_not_alike :
    ¬ ∀ javascriptPayload pythonPayload : String → Option Json,
      SpeakAlike javascriptPayload pythonPayload nightlyEnvironment
        grantingServer [pingCall] := by
  intro alike
  obtain ⟨sameRequests, -⟩ := alike (fun _ => none) (fun _ => none)
  have urls :=
    congrArg (List.map ProxyRequest.url) sameRequests
  revert urls
  decide

end IgaScheduler
