/-!
# Metrics

* `AggOp`            the aggregations; all but `count` need a column, and `count` without one counts
                     rows;
* `Metric`           an aggregation of a column, with what a chart shows of it;
* `TimeGranularity`, `TimeAxis`   the time column of a line chart and its steps;
* `CompositeMetric`  an aggregation over the results of another one per step of time.
-/

namespace WidgetBoard

inductive AggOp where
  | count
  | distinctCount
  | sum
  | avg
  | min
  | max
  deriving DecidableEq, Repr

namespace AggOp

def all : List AggOp := [.count, .distinctCount, .sum, .avg, .min, .max]

def name : AggOp → String
  | .count => "count"
  | .distinctCount => "distinct_count"
  | .sum => "sum"
  | .avg => "avg"
  | .min => "min"
  | .max => "max"

/-- as it stands in a sentence -/
def label : AggOp → String
  | .count => "COUNT"
  | .distinctCount => "DISTINCT_COUNT"
  | .sum => "SUM"
  | .avg => "AVG"
  | .min => "MIN"
  | .max => "MAX"

def requiresNumeric : AggOp → Bool
  | .sum | .avg | .min | .max => true
  | .count | .distinctCount => false

def requiresColumn : AggOp → Bool
  | .count => false
  | _ => true

end AggOp

/-- the side of a line chart on which a metric has its scale -/
inductive Axis where
  | left
  | right
  deriving DecidableEq, Repr

namespace Axis

def all : List Axis := [.left, .right]

def name : Axis → String
  | .left => "left"
  | .right => "right"

end Axis

structure Metric where
  op : AggOp
  column : Option String := none
  label : Option String := none
  axis : Option Axis := none
  deriving DecidableEq, Repr

namespace Metric

/-- counts rows: the metric of a fresh widget -/
def count : Metric := { op := .count }

def onAxis (m : Metric) (a : Axis) : Metric :=
  { m with axis := some a }

def offAxis (m : Metric) : Metric :=
  { m with axis := none }

end Metric

inductive TimeGranularity where
  | hour
  | day
  | week
  | month
  deriving DecidableEq, Repr

namespace TimeGranularity

def all : List TimeGranularity := [.hour, .day, .week, .month]

def name : TimeGranularity → String
  | .hour => "hour"
  | .day => "day"
  | .week => "week"
  | .month => "month"

end TimeGranularity

structure TimeAxis where
  column : String
  granularity : TimeGranularity := .day
  deriving DecidableEq, Repr

structure CompositeMetric where
  inner : AggOp
  outer : AggOp
  valueColumn : Option String := none
  timeColumn : String := ""
  granularity : TimeGranularity := .day
  deriving DecidableEq, Repr

namespace CompositeMetric

/-- such as `AVG(SUM(revenue) by month)`, with `*` when no column is given -/
def describe (c : CompositeMetric) : String :=
  c.outer.label ++ "(" ++ c.inner.label ++ "(" ++ c.valueColumn.getD "*" ++ ") by "
    ++ c.granularity.name ++ ")"

/-- the inner aggregation as a metric of its own -/
def innerMetric (c : CompositeMetric) : Metric :=
  { op := c.inner, column := c.valueColumn }

end CompositeMetric

end WidgetBoard
