import Blueprint.Resource

/-!
The dashboard of a database cluster: four rows of graphs over the width of the page.
-/

namespace Blueprint.Dashboard

def pageWidth : Nat := 24

def graphHeight : Nat := 6

/-- The graphs of the dashboard by their titles, with the metrics that each shows. -/
def clusterRows : List (List (String × List String)) :=
  [[("DB Connections", ["DatabaseConnections"]), ("CPU Utilization", ["CPUUtilization"])],
    [("Backup Storage Billed", ["TotalBackupStorageBilled"]),
      ("Free Local Storage", ["FreeLocalStorage"])],
    [("Freeable Memory", ["FreeableMemory"]),
      ("Storage", ["VolumeBytesUsed", "SnapshotStorageUsed"]),
      ("Volume IOPs", ["VolumeReadIOPs", "VolumeWriteIOPs"])],
    [("Network Throughput",
        ["NetworkReceiveThroughput", "NetworkThroughput", "NetworkTransmitThroughput"]),
      ("Read Latency", ["ReadLatency"]), ("Deadlocks", ["Deadlocks"])]]

/-- The time over which a metric is averaged. The latency of reads is watched more closely. -/
def periodSeconds (metric : String) : Nat := if metric = "ReadLatency" then 60 else 300

def clusterMetric (cluster : Value) (metric : String) : Metric :=
  { group := "AWS/RDS"
    name := metric
    dimensions := Dict.empty.insert "DBClusterIdentifier" cluster
    statistic := "Average"
    periodSeconds := periodSeconds metric }

/-- A row of graphs, which share the width of the page evenly. -/
def row (cluster : Value) (graphs : List (String × List String)) : List Graph :=
  graphs.map fun (title, metrics) =>
    { title
      left := metrics.map (clusterMetric cluster)
      width := pageWidth / max graphs.length 1
      height := graphHeight }

def ofCluster (name : String) (cluster : Value) : Dashboard :=
  { name, rows := clusterRows.map (row cluster) }

end Blueprint.Dashboard
