import FaultTreeExchange.SourceFile

/-!
# Sessions

A session holds at most one document and at most one tree. Commands replace them, change the tree,
or ask about it; a command that fails to yield a new document or tree leaves the old one in place.
-/

namespace FaultTreeExchange

/-- What a session holds. -/
structure Session where
  document : Option Document
  tree : Option FaultTree
  deriving DecidableEq, Repr

def Session.empty : Session := ⟨none, none⟩

/-- A step of a session. -/
inductive Command where
  | parse (source file : String)
  /-- Takes a document that no source has described. -/
  | adopt (document : Document)
  | build
  | translate (source file : String) (multiTop : Bool)
  | validate (multiTop : Bool)
  | setUndefined (probability : Binary64)
  | lookup (name : String)
  | complements (gate : Nat)
  | inspect
  | summary
  | exchange
  deriving DecidableEq, Repr

/-- A tree whose undefined events have been given a probability. -/
structure Update extends FaultTree where
  /-- How many events have been given it. -/
  count : Nat

inductive Answer where
  | noDocument
  | noTree
  | noGate
  | document (result : Except Diagnostic Document)
  | tree (result : Except Diagnostic FaultTree)
  | validation (tree : FaultTree) (result : Except Diagnostic Unit)
  | updated (update : Update)
  | event (found : Option Event)
  | events (found : List Event)
  | inspection (tree : FaultTree)
  | summary (summary : Summary)
  | text (text : String)

namespace Session

def keepDocument (session : Session) : Except Diagnostic Document → Session
  | .ok document => { session with document := some document }
  | .error _ => session

def keepTree (session : Session) : Except Diagnostic FaultTree → Session
  | .ok tree => { session with tree := some tree }
  | .error _ => session

/-- Does something with the tree of a session, if it has one. -/
def onTree (session : Session) (action : FaultTree → Answer × Session) : Answer × Session :=
  match session.tree with
  | none => (.noTree, session)
  | some tree => action tree

/-- The answer to a command, and the session after it. -/
def step (session : Session) : Command → Answer × Session
  | .parse source file =>
    let result := Document.parse source file
    (.document result, session.keepDocument result)
  | .adopt document => (.document (.ok document), session.keepDocument (.ok document))
  | .build =>
    match session.document with
    | none => (.noDocument, session)
    | some document =>
      let result := FaultTree.build document
      (.tree result, session.keepTree result)
  | .translate source file multiTop =>
    let result := FaultTreeExchange.translate source file multiTop
    (.tree result, session.keepTree result)
  | .validate multiTop =>
    session.onTree fun tree =>
      let (tree, result) := tree.validate multiTop
      (.validation tree result, { session with tree := some tree })
  | .setUndefined probability =>
    session.onTree fun tree =>
      let (tree, count) := tree.supplyUndefined probability
      (.updated ⟨tree, count⟩, { session with tree := some tree })
  | .lookup name => session.onTree fun tree => (.event (tree.lookup name), session)
  | .complements index =>
    session.onTree fun tree =>
      match tree.gates[index]? with
      | none => (.noGate, session)
      | some gate => (.events (tree.complementedEvents gate), session)
  | .inspect => session.onTree fun tree => (.inspection tree, session)
  | .summary => session.onTree fun tree => (.summary tree.summary, session)
  | .exchange => session.onTree fun tree => (.text tree.exchangeText, session)

/-- The answers to commands in a row, and the session after them. -/
def run (session : Session) : List Command → List Answer × Session
  | [] => ([], session)
  | command :: rest =>
    let (answer, session) := session.step command
    let (answers, session) := session.run rest
    (answer :: answers, session)

end Session
end FaultTreeExchange
