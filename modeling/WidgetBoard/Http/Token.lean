/-!
# Tokens

A token is a name of the protocol itself: a method, a media type, the name of a parameter.  It holds
ASCII letters and digits and fifteen marks.

* `isTokenChar`   the characters of tokens;
* `isToken`       whether a text is a token.
-/

namespace WidgetBoard.Http

def isTokenChar (c : Char) : Bool :=
  c.isAlphanum || "!#$%&'*+-.^_|~".contains c || c.toNat == 0x60

def isToken (s : String) : Bool :=
  !s.isEmpty && s.toList.all isTokenChar

end WidgetBoard.Http
