import WidgetBoard.Json.Reader

/-!
# Settings

What a running service is configured with.  Every setting has a default.  Times are given in seconds
or milliseconds and are compared in milliseconds.
-/

namespace WidgetBoard

/-- where dashboards are kept -/
inductive Backend where
  /-- by another service -/
  | api
  /-- by the process itself -/
  | memory
  deriving DecidableEq, Repr

namespace Backend

def all : List Backend := [.api, .memory]

def name : Backend → String
  | .api => "api"
  | .memory => "memory"

end Backend

/-- how the other service is reached -/
structure ApiSettings where
  baseUrl : String := "http://localhost:3000/api"
  token : Option String := none
  timeoutSeconds : Nat := 10
  deriving DecidableEq, Repr

structure Settings where
  bindAddress : String := "0.0.0.0:8080"
  api : ApiSettings := {}
  backend : Backend := .api
  seedFile : Option String := none
  debounceMillis : Nat := 400
  logFilter : String := "info"
  deriving DecidableEq, Repr

def ApiSettings.timeoutMillis (s : ApiSettings) : Nat :=
  1000 * s.timeoutSeconds

/-! ## As JSON -/

def Backend.reader : Reader Backend := Reader.named (all.map fun b => (b.name, b))

def ApiSettings.reader : Reader ApiSettings :=
  let s : ApiSettings := {}
  (Members.of ApiSettings.mk |>.withDefault "base_url" s.baseUrl Reader.string
    |>.optional "token" Reader.string
    |>.withDefault "timeout_secs" s.timeoutSeconds Reader.natural).reader

/-- the address stands in an object of its own -/
def Settings.bindAddressReader : Reader String :=
  let s : Settings := {}
  (Members.of id |>.withDefault "bind_addr" s.bindAddress Reader.string).reader

def Settings.reader : Reader Settings :=
  let s : Settings := {}
  (Members.of Settings.mk |>.withDefault "server" s.bindAddress bindAddressReader
    |>.withDefault "api" s.api ApiSettings.reader
    |>.withDefault "backend" s.backend Backend.reader
    |>.optional "seed_file" Reader.string
    |>.withDefault "native_filter_debounce_ms" s.debounceMillis Reader.natural
    |>.withDefault "log_filter" s.logFilter Reader.string).reader

end WidgetBoard
