import ModalLexer.Session
/-!
# Calls

Everything a consumer may do with a session, as data: a `Call` is one request and a `Reply` its answer.  What a consumer
does in the course of time is then a list of calls (`Session.calls`).
-/
namespace ModalLexer

inductive Call (σ : Type)
  | next | peek | iterate
  | push (state : String)
  | pop
  | setSkip (skip : KindSet)
  | setPolicy (policy : Policy)
  | observe (o : Observer σ)
  | unobserve | resume

def Call.isPeek {σ : Type} : Call σ → Bool
  | peek => true
  | _ => false

inductive Reply
  /-- The reply to `next` and to `peek`. -/
  | answer (r : Answer)
  | turn (r : Option (Except ScanError Token))
  | entered (r : Except ScanError Unit)
  | left (r : Except ScanError State)
  | done

def Reply.token? : Reply → Option Token
  | answer (.ok tok) => tok
  | turn (some (.ok tok)) => some tok
  | _ => none

/-- The error in a reply to a call for a token. -/
def Reply.error? : Reply → Option ScanError
  | answer (.error e) => some e
  | turn (some (.error e)) => some e
  | _ => none

/-- The tokens that calls hand out, looking ahead apart. -/
def handedOut {σ : Type} (rs : List (Call σ × Reply)) : List Token :=
  rs.filterMap fun r => if r.1.isPeek then none else r.2.token?

namespace Session

variable {σ : Type}

/-- Carries out a call.  One that is refused leaves the session as it was. -/
def call (s : Session σ) : Call σ → Reply × Session σ
  | .next => let (r, s) := s.next; (.answer r, s)
  | .peek => let (r, s) := s.peek; (.answer r, s)
  | .iterate => let (r, s) := s.iterate; (.turn r, s)
  | .push state => match s.pushState state with
    | .ok s => (.entered (.ok ()), s)
    | .error e => (.entered (.error e), s)
  | .pop => match s.popState with
    | .ok (state, s) => (.left (.ok state), s)
    | .error e => (.left (.error e), s)
  | .setSkip skip => (.done, s.setSkip skip)
  | .setPolicy policy => (.done, s.setPolicy policy)
  | .observe o => (.done, s.setObserver o)
  | .unobserve => (.done, s.clearObserver)
  | .resume => (.done, s.resume)

/-- Carries out calls in turn, and gives each with its reply. -/
def calls (s : Session σ) : List (Call σ) → List (Call σ × Reply) × Session σ
  | [] => ([], s)
  | c :: cs =>
    let (r, s) := s.call c
    let (rs, s) := calls s cs
    ((c, r) :: rs, s)

theorem calls_cons (s : Session σ) (c : Call σ) (cs : List (Call σ)) :
    s.calls (c :: cs) = ((c, (s.call c).1) :: ((s.call c).2.calls cs).1, ((s.call c).2.calls cs).2) := rfl

end Session
end ModalLexer
