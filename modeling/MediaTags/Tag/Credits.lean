import MediaTags.Text.Blank

/-!
# Credits

A credit names a role and the people in it. Crediting someone again changes nothing, and adding
people to a role keeps those already there in front.
-/

namespace MediaTags

structure Credit where
  role : String
  names : List String
  deriving DecidableEq, Repr

namespace Credit

/-- Append the names that are not in the list yet, each once. -/
def appendNew (names : List String) : List String → List String
  | [] => names
  | n :: more => appendNew (if n ∈ names then names else names ++ [n]) more

/-- Put names under a role, in the role's credit if there is one and in a new last one if not. -/
def merge (role : String) (names : List String) : List Credit → List Credit
  | [] => [⟨role, appendNew [] names⟩]
  | c :: cs =>
    if c.role = role then { c with names := appendNew c.names names } :: cs
    else c :: merge role names cs

/-- Credit people with a role. Blank names are left out; a blank role or nobody left to credit
changes nothing. -/
def add (role : String) (names : List String) (credits : List Credit) : List Credit :=
  match Text.present? role, names.filterMap Text.present? with
  | some role, name :: more => merge role (name :: more) credits
  | _, _ => credits

/-- The people credited with a role. -/
def namesOf (role : String) (credits : List Credit) : List String :=
  match credits.find? (fun c => c.role == role) with
  | some c => c.names
  | none => []

theorem prefix_appendNew (names more : List String) : names <+: appendNew names more := by
  induction more generalizing names with
  | nil => exact List.prefix_refl _
  | cons n more ih =>
    simp only [appendNew]
    split
    · exact ih names
    · exact (List.prefix_append names [n]).trans (ih _)

end Credit

end MediaTags
