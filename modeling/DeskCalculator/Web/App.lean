import DeskCalculator.Session
import DeskCalculator.Web.Form
import DeskCalculator.Web.Route
import DeskCalculator.Web.Target

namespace DeskCalculator.Web

/-- The web interface of one session. -/
structure App where
  origins : List String
  session : Session

namespace App

def start (clock : Clock) (origins : List String) : App := ⟨origins, .start clock⟩

/-- What a request comes to: a reply at once, if it can be sent, or a request to the session. -/
inductive Dispatch where
  | reply (r : Except Breakdown Reply)
  | session (r : Session.Request)

/-- A fault becomes its message; in an answer, doubles that are not finite become null. -/
def sessionReply : Except Fault Session.Answer → Reply
  | .ok a => ⟨200, .json a.toJson.finiteOnly⟩
  | .error f => .detail 400 (.text f.message)

/-- The reply to an expression that is no text because of a surrogate in it. What stands in front
of the first one has a fault of its own, or else the surrogate is the first symbol that is not
supported, and the message that quotes it cannot be sent. -/
def surrogateReply (us : Text.Codes) : Except Breakdown Reply :=
  match tokenize (Text.ofCodes (us.takeWhile fun u => !Text.isSurrogate u)) with
  | .error f => .ok (sessionReply (.error f))
  | .ok _ => .error .surrogate

def Dispatch.ofExpression (us : Text.Codes) : Dispatch :=
  match Text.ofCodes? us with
  | some text => .session (.evaluate (.text text))
  | none => .reply (surrogateReply us)

def Dispatch.ofRoute (room : Nat) (body : String) : Route → Dispatch
  | .index => .reply (.ok Page.index)
  | .health => .reply (.ok Page.health)
  | .evaluate =>
    match Form.ofBody room body with
    | .ok us => .ofExpression us
    | .error f => .reply f.reply
  | .clear => .session .clear
  | .undo => .session .undo
  | .redo => .session .redo
  | .state => .session .state
  | .history => .session .history

/-- No address has the method HEAD, and replies to it are bare. -/
def Dispatch.turnAway (method : String) (r : Reply) : Dispatch :=
  .reply (.ok (if method = "HEAD" then r.bare else r))

def dispatch (room : Nat) (method target body : String) : Dispatch :=
  match Route.ofPath? (Target.path target) with
  | none => .turnAway method Page.notFound
  | some route =>
    if method = route.method then .ofRoute room body route
    else .turnAway method Page.methodNotAllowed

/-- What comes of a request that does not only ask for leave. -/
def answer (clock : Clock) (room : Nat) (s : Session) (r : Request) :
    Except Breakdown Reply × Session :=
  match dispatch room r.verb r.target r.body with
  | .reply reply => (reply, s)
  | .session q =>
    let (out, s) := s.step clock q
    (.ok (sessionReply out), s)

/-- A request is first put to the rules about origins. `room` is how many containers the machine
that the interface runs on lets be open at once in a body. -/
def handle (clock : Clock) (room : Nat) (app : App) (r : Request) :
    Except Breakdown Response × App :=
  let allowOrigin := r.origin.bind (Origin.allowed? app.origins)
  match Origin.preflight? r with
  | some (origin, method) =>
    (.ok ⟨Origin.preflightReply app.origins origin method, allowOrigin⟩, app)
  | none =>
    let (reply, session) := answer clock room app.session r
    (reply.map (⟨·, allowOrigin⟩), { app with session })

def run (clock : Clock) (room : Nat) (origins : List String) (rs : List Request) :
    List (Except Breakdown Response × App) :=
  trace (handle clock room) (start clock origins) rs

variable {clock : Clock} {room : Nat} {app : App} {r : Request}

theorem handle_of_preflight {o m : String} (h : Origin.preflight? r = some (o, m)) :
    (handle clock room app r).2 = app := by
  simp [handle, h]

theorem handle_of_not_preflight (h : Origin.preflight? r = none) (clock : Clock) (room : Nat)
    (app : App) :
    (handle clock room app r).1.map Response.reply = (answer clock room app.session r).1 ∧
      (handle clock room app r).2.session = (answer clock room app.session r).2 := by
  simp only [handle, h, and_true]
  cases (answer clock room app.session r).1 <;> rfl

theorem handle_allowOrigin {response : Response} (h : (handle clock room app r).1 = .ok response) :
    response.allowOrigin = r.origin.bind (Origin.allowed? app.origins) := by
  unfold handle at h
  split at h
  · exact (Except.ok.inj h) ▸ rfl
  · cases hs : (answer clock room app.session r).1 with
    | error b => simp [hs, Except.map] at h
    | ok reply =>
      simp only [hs, Except.map, Except.ok.injEq] at h
      rw [← h]

theorem handle_origins (clock : Clock) (room : Nat) (app : App) (r : Request) :
    (handle clock room app r).2.origins = app.origins := by
  unfold handle
  split <;> rfl

end App

end DeskCalculator.Web
