import Viridity.RewriteRules
import Viridity.ServerMessages

/-!
# Redirects decided and redirects sent

`doesHandleRequest` tests the rules against the URL the request has first, and stops at the
first external rule that matches. `handleRequest` tests them against the URL that the internal
rules have left, and does not stop.
-/

namespace Viridity.RedirectDecisions

open Viridity.TextEncoding
open Viridity.ServerMessages
open Viridity.RewriteRules

set_option autoImplicit false

/-- How far the response is written. Redirects write no body. -/
inductive FormattingState where
  | statusLine
  | headers
  | ended
deriving DecidableEq

/-- `statusCode` and `written` are what went out. The calls of `end` and the signals `finished`
are counted. -/
structure HttpServerResponse where
  formattingState : FormattingState
  headers : List (Bytes × Bytes)
  statusCode : Option Int
  written : List (Bytes × Bytes)
  endCalls : Nat
  finished : Nat
deriving DecidableEq

namespace HttpServerResponse

def create : HttpServerResponse where
  formattingState := .statusLine
  headers := []
  statusCode := none
  written := []
  endCalls := 0
  finished := 0

def insertHeader (response : HttpServerResponse) (name value : Bytes) : HttpServerResponse :=
  { response with headers := response.headers ++ [(name, value)] }

def writeHead (response : HttpServerResponse) (statusCode : Int) : HttpServerResponse :=
  match response.formattingState with
  | .statusLine => { response with statusCode := some statusCode, formattingState := .headers }
  | .headers | .ended => response

/-- Without a body this writes the headers, if the status line is out. -/
def «end» (response : HttpServerResponse) : HttpServerResponse :=
  let called := { response with endCalls := response.endCalls + 1 }
  match response.formattingState with
  | .headers =>
      { called with
        written := response.headers
        formattingState := .ended
        finished := response.finished + 1 }
  | .statusLine | .ended => called

end HttpServerResponse

def locationText : Bytes := utf8.encode ['L', 'o', 'c', 'a', 't', 'i', 'o', 'n']

section Handler

variable (capture : Units → Units → Option (List Units)) (decoder : Decoder)

/-- The rounds of `doesHandleRequest`, with the URL tested and the URL of the request. -/
def testRules (url : Units) : Bytes → List RewriteRule → Bool × Bytes
  | requestUrl, [] => (false, requestUrl)
  | requestUrl, rule :: rules =>
      if rule.flag = some .rewriteInternal then
        match rule.doesMatchAndSubstitute capture url with
        | some substitutedUrl => testRules url (toLatin1 substitutedUrl) rules
        | none => testRules url requestUrl rules
      else if rule.flag = some .rewriteExternal then
        match rule.doesMatchAndSubstitute capture url with
        | some _ => (true, requestUrl)
        | none => testRules url requestUrl rules
      else testRules url requestUrl rules

/-- Whether the request is handled, and the URL it has afterwards. -/
def doesHandleRequest (handler : RewriteRequestHandler) (requestUrl : Bytes) : Bool × Bytes :=
  testRules capture (toQString decoder requestUrl) requestUrl handler.interpretedRewriteRules

def redirectBy (url : Units) (response : HttpServerResponse) (rule : RewriteRule) :
    HttpServerResponse :=
  if rule.flag = some .rewriteExternal then
    match rule.doesMatchAndSubstitute capture url with
    | some substitutedUrl =>
        ((response.insertHeader locationText (toLatin1 substitutedUrl)).writeHead
          rule.rewriteHttpStatusCode).end
    | none => response
  else response

def handleRequest (handler : RewriteRequestHandler) (requestUrl : Bytes)
    (response : HttpServerResponse) : HttpServerResponse :=
  handler.interpretedRewriteRules.foldl (redirectBy capture (toQString decoder requestUrl)) response

end Handler

structure Redirect where
  statusCode : Int
  location : Bytes
deriving DecidableEq

section Agreement

variable (capture : Units → Units → Option (List Units)) (decoder : Decoder)

def redirectOf (url : Units) (rule : RewriteRule) : Option Redirect :=
  if rule.flag = some .rewriteExternal then
    (rule.doesMatchAndSubstitute capture url).map fun substitutedUrl =>
      ⟨rule.rewriteHttpStatusCode, toLatin1 substitutedUrl⟩
  else none

def rewriteOf (url : Units) (rule : RewriteRule) : Option Bytes :=
  if rule.flag = some .rewriteInternal then
    (rule.doesMatchAndSubstitute capture url).map toLatin1
  else none

/-- The redirect of the first external rule that matches the URL of the request. -/
def decidingRedirect (handler : RewriteRequestHandler) (requestUrl : Bytes) : Option Redirect :=
  handler.interpretedRewriteRules.findSome? (redirectOf capture (toQString decoder requestUrl))

/-- The URL left by the last internal rule that matches before that one. -/
def leftUrl (handler : RewriteRequestHandler) (requestUrl : Bytes) : Bytes :=
  let url := toQString decoder requestUrl
  let before := handler.interpretedRewriteRules.takeWhile fun rule =>
    (redirectOf capture url rule).isNone
  (before.filterMap (rewriteOf capture url)).getLast?.getD requestUrl

def redirects (handler : RewriteRequestHandler) (requestUrl : Bytes) : List Redirect :=
  handler.interpretedRewriteRules.filterMap (redirectOf capture (toQString decoder requestUrl))

/-- The status line and the location that went out are those of a redirect. -/
def Carries (redirect : Redirect) (response : HttpServerResponse) : Prop :=
  response.statusCode = some redirect.statusCode ∧
    response.written = [(locationText, redirect.location)]

/-- Where `doesHandleRequest` returns true for a redirect, `handleRequest` sends this one and
`ends` tells how often the response is ended. -/
def Agrees (ends : HttpServerResponse → Nat) (handler : RewriteRequestHandler)
    (requestUrl : Bytes) : Prop :=
  let decision := doesHandleRequest capture decoder handler requestUrl
  decision.1 = true →
    let response := handleRequest capture decoder handler decision.2 .create
    ends response = 1 ∧
      ∃ redirect, decidingRedirect capture decoder handler requestUrl = some redirect ∧
        Carries redirect response

variable {capture decoder}

/-- The loop ends at the first redirect and keeps the last rewrite before it. -/
theorem test_rules_spec (url : Units) (requestUrl : Bytes) (rules : List RewriteRule) :
    testRules capture url requestUrl rules =
      ((rules.findSome? (redirectOf capture url)).isSome,
        ((rules.takeWhile fun rule => (redirectOf capture url rule).isNone).filterMap
          (rewriteOf capture url)).getLast?.getD requestUrl) := by
  induction rules generalizing requestUrl with
  | nil => rfl
  | cons rule rest induction =>
      unfold testRules
      by_cases inside : rule.flag = some .rewriteInternal
      · have other : redirectOf capture url rule = none := if_neg (by simp [inside])
        have rewrite : rewriteOf capture url rule =
            (rule.doesMatchAndSubstitute capture url).map toLatin1 := if_pos inside
        rw [if_pos inside, List.findSome?_cons, other, List.takeWhile_cons_of_pos (by simp [other])]
        cases matched : rule.doesMatchAndSubstitute capture url with
        | none =>
            rw [List.filterMap_cons_none (by rw [rewrite, matched]; rfl)]
            exact induction requestUrl
        | some substitutedUrl =>
            rw [List.filterMap_cons_some (by rw [rewrite, matched]; rfl), List.getLast?_cons]
            exact induction (toLatin1 substitutedUrl)
      · have kept : rewriteOf capture url rule = none := if_neg inside
        rw [if_neg inside]
        by_cases outside : rule.flag = some .rewriteExternal
        · have redirect : redirectOf capture url rule =
              (rule.doesMatchAndSubstitute capture url).map fun substitutedUrl =>
                ⟨rule.rewriteHttpStatusCode, toLatin1 substitutedUrl⟩ := if_pos outside
          rw [if_pos outside, List.findSome?_cons, redirect]
          cases matched : rule.doesMatchAndSubstitute capture url with
          | none =>
              rw [List.takeWhile_cons_of_pos (by rw [redirect, matched]; rfl),
                List.filterMap_cons_none kept]
              exact induction requestUrl
          | some substitutedUrl =>
              rw [List.takeWhile_cons_of_neg (by rw [redirect, matched]; simp)]
              rfl
        · have none : redirectOf capture url rule = none := if_neg outside
          rw [if_neg outside, List.findSome?_cons, none,
            List.takeWhile_cons_of_pos (by simp [none]), List.filterMap_cons_none kept]
          exact induction requestUrl

theorem does_handle_request_spec (handler : RewriteRequestHandler) (requestUrl : Bytes) :
    doesHandleRequest capture decoder handler requestUrl =
      ((decidingRedirect capture decoder handler requestUrl).isSome,
        leftUrl capture decoder handler requestUrl) :=
  test_rules_spec _ _ _

def send (response : HttpServerResponse) (redirect : Redirect) : HttpServerResponse :=
  ((response.insertHeader locationText redirect.location).writeHead redirect.statusCode).end

theorem redirect_by_eq (url : Units) (response : HttpServerResponse) (rule : RewriteRule) :
    redirectBy capture url response rule =
      (redirectOf capture url rule).elim response (send response) := by
  unfold redirectBy redirectOf
  split_ifs
  · cases rule.doesMatchAndSubstitute capture url with
    | none => rfl
    | some substitutedUrl => rfl
  · rfl

theorem handle_request_sends (handler : RewriteRequestHandler) (requestUrl : Bytes)
    (response : HttpServerResponse) :
    handleRequest capture decoder handler requestUrl response =
      (redirects capture decoder handler requestUrl).foldl send response := by
  unfold handleRequest redirects
  rw [List.foldl_filterMap]
  congr 1
  funext response rule
  rw [redirect_by_eq]
  cases redirectOf capture (toQString decoder requestUrl) rule with
  | none => rfl
  | some redirect => rfl

theorem sends_ended (redirects : List Redirect) {response : HttpServerResponse}
    (ended : response.formattingState = .ended) :
    (redirects.foldl send response).statusCode = response.statusCode ∧
      (redirects.foldl send response).written = response.written ∧
        (redirects.foldl send response).finished = response.finished ∧
          (redirects.foldl send response).endCalls = response.endCalls + redirects.length := by
  induction redirects generalizing response with
  | nil => exact ⟨rfl, rfl, rfl, rfl⟩
  | cons redirect rest induction =>
      have sent : send response redirect =
          { response with
            headers := response.headers ++ [(locationText, redirect.location)]
            endCalls := response.endCalls + 1 } := by
        simp [send, HttpServerResponse.insertHeader, HttpServerResponse.writeHead,
          HttpServerResponse.end, ended]
      have later := @induction (send response redirect) (by rw [sent]; exact ended)
      rw [List.foldl_cons, later.1, later.2.1, later.2.2.1, later.2.2.2, sent, List.length_cons]
      exact ⟨rfl, rfl, rfl, by dsimp only; omega⟩

theorem sends_first (redirect : Redirect) (rest : List Redirect) :
    Carries redirect ((redirect :: rest).foldl send .create) ∧
      ((redirect :: rest).foldl send .create).finished = 1 ∧
        ((redirect :: rest).foldl send .create).endCalls = rest.length + 1 := by
  have later := @sends_ended rest (send .create redirect) rfl
  rw [List.foldl_cons]
  unfold Carries
  rw [later.1, later.2.1, later.2.2.1, later.2.2.2]
  exact ⟨⟨rfl, rfl⟩, rfl, Nat.add_comm 1 rest.length⟩

theorem carries_iff {redirect other : Redirect} {response : HttpServerResponse}
    (carried : Carries redirect response) : Carries other response ↔ redirect = other := by
  constructor
  · intro also
    have status := carried.1.symm.trans also.1
    have location := carried.2.symm.trans also.2
    simp only [Option.some.injEq] at status
    simp only [List.cons.injEq, Prod.mk.injEq, true_and, and_true] at location
    cases redirect
    cases other
    exact congrArg₂ Redirect.mk status location
  · intro same
    exact same ▸ carried

theorem agrees_iff (ends : HttpServerResponse → Nat) (handler : RewriteRequestHandler)
    (requestUrl : Bytes) :
    Agrees capture decoder ends handler requestUrl ↔
      ∀ redirect, decidingRedirect capture decoder handler requestUrl = some redirect →
        let sent := redirects capture decoder handler (leftUrl capture decoder handler requestUrl)
        sent.head? = some redirect ∧ ends (sent.foldl send .create) = 1 := by
  unfold Agrees
  rw [does_handle_request_spec]
  dsimp only
  rw [handle_request_sends]
  cases decidingRedirect capture decoder handler requestUrl with
  | none => simp
  | some decided =>
      cases redirects capture decoder handler (leftUrl capture decoder handler requestUrl) with
      | nil => simp [Carries, HttpServerResponse.create]
      | cons first rest =>
          have carried := @carries_iff first decided _ (sends_first first rest).1
          simp only [Option.isSome_some, forall_const, Option.some.injEq, forall_eq',
            exists_eq_left', List.head?_cons, carried]
          exact and_comm

/-- Counting calls of `end`, decision and response agree exactly if one external rule alone
matches the URL left behind, and redirects it where the deciding rule redirects the first one.
On the wire, where a response ends only once, this has to be the first that matches. -/
theorem redirect_agrees_iff (handler : RewriteRequestHandler) (requestUrl : Bytes) :
    (Agrees capture decoder HttpServerResponse.endCalls handler requestUrl ↔
      ∀ redirect, decidingRedirect capture decoder handler requestUrl = some redirect →
        redirects capture decoder handler (leftUrl capture decoder handler requestUrl) =
          [redirect]) ∧
    (Agrees capture decoder HttpServerResponse.finished handler requestUrl ↔
      ∀ redirect, decidingRedirect capture decoder handler requestUrl = some redirect →
        (redirects capture decoder handler (leftUrl capture decoder handler requestUrl)).head? =
          some redirect) := by
  constructor
  · rw [agrees_iff]
    apply forall₂_congr
    intro redirect _
    cases redirects capture decoder handler (leftUrl capture decoder handler requestUrl) with
    | nil => simp
    | cons first rest =>
        dsimp only
        rw [(sends_first first rest).2.2]
        simp
  · rw [agrees_iff]
    apply forall₂_congr
    intro redirect _
    cases redirects capture decoder handler (leftUrl capture decoder handler requestUrl) with
    | nil => simp
    | cons first rest =>
        dsimp only
        rw [(sends_first first rest).2.1]
        simp

end Agreement

def literalCapture (pattern url : Units) : Option (List Units) :=
  if pattern = url then some [url] else none

/-- The URL `/a` is rewritten to `/b` for the handlers behind, and moved to `/c`. -/
def movedRules : RewriteRequestHandler where
  rewriteRules :=
    [utf16.encode ['/', 'a', ' ', '/', 'b'],
      utf16.encode ['/', 'a', ' ', '/', 'c', ' ', '[', 'R', ']']]
  interpretedRewriteRules :=
    [⟨utf16.encode ['/', 'a'], utf16.encode ['/', 'b'], some .rewriteInternal, 0⟩,
      ⟨utf16.encode ['/', 'a'], utf16.encode ['/', 'c'], some .rewriteExternal, 301⟩]

/-- The redirect is decided, and nothing is sent. -/
theorem decided_redirect_not_sent :
    ¬ ∀ (handler : RewriteRequestHandler) (requestUrl : Bytes),
      Agrees literalCapture strictDecoder HttpServerResponse.finished handler requestUrl := by
  intro agrees
  have decided : (doesHandleRequest literalCapture strictDecoder movedRules
      (utf8.encode ['/', 'a'])).1 = true := by
    decide
  have sent := (agrees movedRules (utf8.encode ['/', 'a']) decided).1
  revert sent
  decide

end Viridity.RedirectDecisions
