/-!
# Joined texts

Texts written one after the other with a separator between every two of them.
-/

namespace Ember.Text

/-- The texts in order, with the separator between neighbours. -/
def joined (separator : String) : List String → String
  | [] => ""
  | [text] => text
  | text :: next :: rest => text ++ separator ++ joined separator (next :: rest)

@[simp] theorem joined_nil (separator : String) : joined separator [] = "" := rfl

@[simp] theorem joined_singleton (separator text : String) : joined separator [text] = text := rfl

@[simp] theorem joined_cons_cons (separator text next : String) (rest : List String) :
    joined separator (text :: next :: rest) =
      text ++ separator ++ joined separator (next :: rest) := rfl

/-- The texts in order, each one followed by a line end. -/
def lines (texts : List String) : String :=
  String.join (texts.map (· ++ "\n"))

end Ember.Text
