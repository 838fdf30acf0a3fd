import Blueprint.Settings.Format

/-!
The sample document that a new project starts from. It holds every key but one, with a value that
can be used as it is; only the beginning of all names is meant to be replaced.
-/

namespace Blueprint.Sample

/-- The lines of the document between its braces, without the commas. -/
def entries (namePrefix : String) : List String :=
  ["\"namePrefix\": \"" ++ namePrefix ++ "\"",
    "\"region\": \"us-east-1\"",
    "\"maxAzs\": 3",
    "\"dnsDomain\": \"example.com\"",
    "\"dnsDomainHost\": \"www\"",
    "\"dnsDomainEnableRoot\": true",
    "\"dbEngine\": \"postgresql\"",
    "\"dbName\": \"acme\"",
    "\"dbUsername\": \"dbadmin\"",
    "\"dbInstanceType\": \"t4g.medium\"",
    "\"dbReplicaInstances\": 1",
    "\"dbBackupWindow\": \"03:00-04:00\"",
    "\"dbBackupRetentionDays\": 14",
    "\"dbPreferredMaintenanceWindow\": \"sun:05:00-sun:06:00\"",
    "\"dbIngressSources\": []",
    "\"dbEnableBabelfish\": false",
    "\"sesEmailEnabled\": false",
    "\"fargateCpu\": 256",
    "\"fargateMemoryLimit\": 512",
    "\"fargateInstances\": 1",
    "\"ecrRepositoryTag\": \"latest\""]

/-- The sample document with a beginning of all names. The text is put in as it stands, so the
result is a document only for a text that needs no escapes. -/
def document (namePrefix : String) : String :=
  "\x7b\n  " ++ String.intercalate ",\n  " (entries namePrefix) ++ "\n\x7d\n"

/-- The file in which a project keeps its settings document. -/
def fileName : String := "stack.config.json"

end Blueprint.Sample
