import WidgetBoard.Text.Percent

/-!
# Paths

A path is written as a slash and a percent-encoded segment, for each of its segments.

* `write`       the path with these segments;
* `split`       the parts between the slashes;
* `segments?`   what stands between the slashes of a path, as written there.
-/

namespace WidgetBoard.Http.Path

/-- the parts between the slashes; there is always one more than there are slashes -/
def split : List Char → List (List Char)
  | [] => [[]]
  | c :: cs =>
    if c = '/' then [] :: split cs
    else match split cs with
      | [] => [[c]]
      | s :: ss => (c :: s) :: ss

/-- none if the path does not start with a slash -/
def segments? (path : String) : Option (List String) :=
  match path.toList with
  | '/' :: cs => some ((split cs).map String.ofList)
  | _ => none

def write (segments : List String) : String :=
  String.join (segments.map fun s => "/" ++ Text.Percent.encode s)

end WidgetBoard.Http.Path
