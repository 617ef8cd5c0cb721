import StorageTyping.Inference.Basic

/-!
# Resolution of temporaries

The types of the temporaries that a scope declares without one, from the expressions written to
them. A temporary whose writers wait for another name is put off until more types are known.
Temporaries are tried in ascending order of their names, and those put off are tried again
after the next success; a round without success ends the resolution.

A writer may read the temporary itself, as an accumulator does. The other writers then give a
first type, and the type assumed for the temporary is widened until its own writers agree with
it.
-/

namespace StorageTyping

/-- A temporary and the expressions written to it, in order. -/
abbrev Written := String × List Expr

/-- The writers of every temporary whose type is to be inferred; other writes are left out. -/
def Scope.writers (scope : Scope) (writes : List (String × Expr)) : Table (List Expr) :=
  writes.foldl
    (fun table write =>
      if scope.isUntypedTemporary write.1 then
        table.insert write.1 ((table.find? write.1).getD [] ++ [write.2])
      else table)
    .empty

/-- The surroundings in which temporaries are inferred once some of them have a type. -/
def Scope.contextWith (scope : Scope) (types : Table StorageType) : Context :=
  scope.context (types.map fun type => ⟨.temporary, some type⟩)

/-- The writers of a temporary by their outcome: the types of those that do not wait, and those
that wait for the temporary itself. There is no answer as soon as one waits for another name. -/
def tryWriters (context : Context) (name : String) :
    List Expr → Logged (Option (List StorageType × List Expr))
  | [] => return some ([], [])
  | writer :: rest => do
    match ← (infer context writer).outcome with
    | .ok type =>
      let others ← tryWriters context name rest
      return others.map fun (types, ownReaders) => (type :: types, ownReaders)
    | .error (.waiting blocking _) =>
      if blocking = name then
        let others ← tryWriters context name rest
        return others.map fun (types, ownReaders) => (types, writer :: ownReaders)
      else
        .report (.deferring name blocking)
        return none
    | .error failure => .fail failure

/-- The types of the writers that read their own temporary, once a type is assumed for it. There
is no answer if one of them waits even then. -/
def tryOwnReaders (context : Context) : List Expr → Logged (Option (List StorageType))
  | [] => return some []
  | writer :: rest => do
    match ← (infer context writer).outcome with
    | .ok type =>
      let others ← tryOwnReaders context rest
      return others.map (type :: ·)
    | .error (.waiting ..) => return none
    | .error failure => .fail failure

/-- Widen the type assumed for a temporary until it is the combination of the types of all
writers, for as many rounds as given. -/
def widen (scope : Scope) (resolved : Table StorageType) (name : String)
    (types : List StorageType) (ownReaders : List Expr) :
    Nat → StorageType → Logged (Option StorageType)
  | 0, assumed => return some assumed
  | rounds + 1, assumed => do
    match ← tryOwnReaders (scope.contextWith (resolved.insert name assumed)) ownReaders with
    | none => return none
    | some ownTypes =>
      let widened ← .ofRule none (StorageType.joinAll (types ++ ownTypes))
      if widened = assumed then return some assumed
      else
        .report (.widening name assumed widened)
        widen scope resolved name types ownReaders rounds widened

/-- The rounds of widening: one for each scalar type. -/
def wideningRounds : Nat := ScalarType.all.length

/-- The type of one temporary, or no answer if it has to wait. -/
def resolveOne (scope : Scope) (resolved : Table StorageType) (written : Written) :
    Logged (Option StorageType) := do
  match ← tryWriters (scope.contextWith resolved) written.1 written.2 with
  | none => return none
  | some ([], _) => return none
  | some (types, ownReaders) =>
    let type ← .ofRule none (StorageType.joinAll types)
    if ownReaders.isEmpty then return some type
    else widen scope resolved written.1 types ownReaders wideningRounds type

/-- The names of some temporaries in ascending order. -/
def namesInOrder (temporaries : List Written) : List String :=
  (temporaries.map (·.1)).mergeSort fun a b => decide (a ≤ b)

/-- Resolve what is left to try; what is put off waits for the next success. -/
def settle (scope : Scope) (resolved : Table StorageType) (waiting : List Written) :
    List Written → Logged (Table StorageType)
  | [] =>
    if waiting.isEmpty then return resolved
    else .fail (.rejected (.unresolved (namesInOrder waiting)) none)
  | written :: rest => do
    match ← resolveOne scope resolved written with
    | some type =>
      .report (.resolved written.1 type)
      settle scope (resolved.insert written.1 type) [] (rest ++ waiting)
    | none => settle scope resolved (waiting ++ [written]) rest
termination_by todo => (todo.length + waiting.length, todo.length)
decreasing_by
  all_goals simp_wf
  · exact Prod.Lex.left _ _ (by omega)
  · rw [show rest.length + (waiting.length + 1) = rest.length + 1 + waiting.length by omega]
    exact Prod.Lex.right _ (by omega)

/-- The types of all temporaries that are written and have none, by name. -/
def Scope.resolve (scope : Scope) (writes : List (String × Expr)) : Logged (Table StorageType) :=
  settle scope .empty [] (scope.writers writes).entries

end StorageTyping
