import WidgetBoard.Store.Call

/-!
# A store in memory

The store begins with the dashboards and views of a seed.  A write changes one dashboard, or nothing
when it fails; a dashboard that is changed is stamped.  Widgets get the ids `widget-1`, `widget-2`,
and so on, each number once as long as the counter's 64 bits last, also when the widget could not be
made.

* `Seed`            what a store begins with;
* `Store.modify`    a change to one dashboard, all or nothing;
* `Store.answer`    the answer to a call, and the store after it.
-/

namespace WidgetBoard

/-- of several dashboards with one id the last counts -/
structure Seed where
  dashboards : List Dashboard := []
  views : Dictionary View := {}
  deriving Repr

structure Store where
  dashboards : Dictionary Dashboard := {}
  views : Dictionary View := {}
  nextId : Nat := 0
  deriving Repr

namespace Store

def ofSeed (s : Seed) : Store :=
  { dashboards := .ofList (s.dashboards.map fun d => (d.id, d)), views := s.views, nextId := 1 }

/-! ## Changing one dashboard -/

/-- changes a dashboard and stamps it, unless it is missing or the change fails -/
def modify {α : Type} (s : Store) (id : String)
    (edit : Dashboard → Except StoreError (α × Dashboard)) : Except StoreError α × Store :=
  match s.dashboards.get? id with
  | none => (.error (.noDashboard id), s)
  | some d =>
    match edit d with
    | .error e => (.error e, s)
    | .ok (a, d) =>
      (.ok a,
        { s with
          dashboards := s.dashboards.insert id { d with updatedAt := some .thisSession } })

/-- puts a widget at the end of a section -/
def addWidget (sectionId : String) (w : Widget) (d : Dashboard) :
    Except StoreError (Widget × Dashboard) :=
  match d.section? sectionId with
  | none => .error (.noSection sectionId)
  | some _ =>
    .ok (w,
      { d with
        sections := updateFirst (·.id) sectionId
          (fun s => { s with widgets := s.widgets ++ [w] }) d.sections })

/-- replaces a widget in the first of the sections that has one with its id -/
def replaceIn (w : Widget) : List Section → List Section
  | [] => []
  | s :: ss =>
    if s.widgets.any fun v => v.id == w.id then
      { s with widgets := updateFirst (·.id) w.id (fun _ => w) s.widgets } :: ss
    else s :: replaceIn w ss

def replaceWidget (w : Widget) (d : Dashboard) : Except StoreError (Widget × Dashboard) :=
  match d.find? w.id with
  | none => .error (.noWidget w.id)
  | some _ => .ok (w, { d with sections := replaceIn w d.sections })

/-- a change that cannot fail -/
def always (edit : Dashboard → Dashboard) (d : Dashboard) : Except StoreError (Unit × Dashboard) :=
  .ok ((), edit d)

/-! ## Answering calls -/

/-- the id given as number `n`; the counter has 64 bits and starts over when they are used up -/
def widgetId (n : Nat) : String :=
  "widget-" ++ toString (n % UInt64.size)

def answer : (c : Call) → Store → c.Reply × Store
  | .dashboard id, s => (.ok (s.dashboards.get? id), s)
  | .viewColumns id, s =>
    match s.views.get? id with
    | some v => (.ok v, s)
    | none => (.error (.noView id), s)
  | .createWidget id w, s =>
    { s with nextId := s.nextId + 1 }.modify id
      (addWidget w.sectionId (w.withId (widgetId s.nextId)))
  | .updateWidget id w, s => s.modify id (replaceWidget w)
  | .deleteWidget id w, s => s.modify id (always (·.withoutWidget w))
  | .saveLayout id l, s => s.modify id (always (·.applyLayout l))
  | .saveNativeFilters id fs, s => s.modify id (always fun d => { d with nativeFilters := fs })

end Store

end WidgetBoard
