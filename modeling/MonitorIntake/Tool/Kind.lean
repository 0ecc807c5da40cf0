import MonitorIntake.Text.Basic

/-!
# Kinds of tools

The registered kinds, by type name (`ToolKind.ofName?`), with what is fixed for each: its version, its description as
long as no other is given, and the names under which a host finds its factory and its input contract.
-/

namespace MonitorIntake

/-- A registered kind of tool. -/
inductive ToolKind
  /-- Takes the parameters of a new monitor out of the input of an agent. -/
  | createMonitorParameters
  deriving DecidableEq

namespace ToolKind

/-- The description of the tool that prepares a new monitor, by lines. -/
def createMonitorLines : List String :=
   ["Use this tool to get parameters required by creating a new monitor. The goal is to parse input " ++
      "parameters when user asks for creating a new monitor based on the data in the cluster. The tool " ++
      "takes arguments with name of the monitor, monitor_type which defines the type of the monitor " ++
      "(options are query_level_monitor, bucket_level_monitor, cluster_metrics_monitor and " ++
      "doc_level_monitor, default is query_level_monitor), searchType which defines the way of creating " ++
      "monitor via UI (options are graph and query, default is graph), frequency which defines the " ++
      "period of monitoring (options are interval, daily, weekly and monthly, default is interval), the " ++
      "other fields differ based on different monitor_type.1. If the monitor_type is query_level_monitor " ++
      "or bucket_level_monitor, an example of parameters is         \x7b",
    "            name: 'test monitor',",
    "            monitor_type: 'query_level_monitor',",
    "            frequency: 'interval',",
    "            timezone: 'Japan',",
    "            daily: 0,",
    "            interval: 1,",
    "            unit: 'MINUTES',",
    "            weekly_mon: false,",
    "            weekly_tue: false,",
    "            weekly_wed: false,",
    "            weekly_thur: false,",
    "            weekly_fri: false,",
    "            weekly_sat: false,",
    "            weekly_sun: false,",
    "            monthly_type: 'day',",
    "            monthly_day: 1,",
    "            searchType: 'graph',",
    "            index: 'opensearch_dashboards_sample_data_ecommerce',",
    "            timefield: 'timestamp',",
    "            aggregationType: 'count',",
    "            aggregationField: 'bytes',",
    "            groupByField: 'bytes',",
    "            filterField: 'memory',",
    "            filterFieldType: 'number',",
    "            filterOperator: 'is',",
    "            filterValue: 'Japan',",
    "            bucketValue: 1,",
    "            bucketUnitOfTime: 'h',",
    "            trigger_name: 'test trigger',",
    "            trigger_severity: 1,",
    "            trigger_threshold_enum: 'ABOVE',",
    "            trigger_threshold: 1000,",
    "        \x7d2. If the monitor_type is cluster_metrics_monitor, an example of parameters is\x7b",
    "                 name: 'test monitor',",
    "                 monitor_type: 'cluster_metrics_monitor',",
    "                \"index\": [",
    "                    \"opensearch_dashboards_sample_data_logs\"",
    "                ],",
    "                \"schedule\": \x7b",
    "                    \"period\": \x7b",
    "                        \"unit\": \"MINUTES\",",
    "                        \"interval\": 1",
    "                    \x7d,",
    "                    \"timezone\": \"Japan\",",
    "                    \"daily\": 2,",
    "                    \"monthly\": \x7b",
    "                        \"type\": \"day\",",
    "                        \"day\": 1",
    "                    \x7d,",
    "                    \"weekly\": \x7b",
    "                        \"thu\": true,",
    "                        \"tue\": true,",
    "                        \"wed\": false,",
    "                        \"thur\": false,",
    "                        \"sat\": false,",
    "                        \"fri\": false,",
    "                        \"mon\": false,",
    "                        \"sun\": false",
    "                    \x7d,",
    "                    \"frequency\": \"weekly\"",
    "                \x7d,",
    "                \"search\": \x7b",
    "                    \"searchType\": \"clusterMetrics\",",
    "                    \"bucketValue\": 1,",
    "                    \"timeField\": \"\",",
    "                    \"bucketUnitOfTime\": \"h\",",
    "                    \"groupBy\": [],",
    "                    \"filters\": [],",
    "                    \"aggregations\": []",
    "                \x7d,",
    "                \"triggers\": \x7b",
    "                    \"test trigger 3\": \x7b",
    "                        \"value\": 10000,",
    "                        \"enum\": \"ABOVE\"",
    "                    \x7d",
    "                \x7d,",
    "                \"monitor_type\": \"cluster_metrics_monitor\"",
    "            \x7d3. If the monitor_type is doc_level_monitor, an example of parameters is\x7b",
    "                 name: 'test monitor',",
    "                 monitor_type: 'doc_level_monitor',",
    "                \"index\": [",
    "                    \"opensearch_dashboards_sample_data_logs\"",
    "                ],",
    "                \"schedule\": \x7b",
    "                    \"period\": \x7b",
    "                        \"unit\": \"MINUTES\",",
    "                        \"interval\": 1",
    "                    \x7d,",
    "                    \"timezone\": \"Japan\",",
    "                    \"daily\": 4,",
    "                    \"monthly\": \x7b",
    "                        \"type\": \"day\",",
    "                        \"day\": 5",
    "                    \x7d,",
    "                    \"weekly\": \x7b",
    "                        \"tue\": false,",
    "                        \"wed\": false,",
    "                        \"thur\": false,",
    "                        \"sat\": false,",
    "                        \"fri\": false,",
    "                        \"mon\": false,",
    "                        \"sun\": false",
    "                    \x7d,",
    "                    \"frequency\": \"monthly\"",
    "                \x7d,",
    "                \"search\": \x7b",
    "                    \"searchType\": \"graph\"",
    "                \x7d,",
    "                \"triggers\": \x7b",
    "                    \"test trigger 4\": [",
    "                        \x7b",
    "                            \"query\": \x7b",
    "                                \"expression\": \"name=test-query-4\",",
    "                                \"field\": \"bytes\",",
    "                                \"query\": 1,",
    "                                \"queryName\": \"test-query\",",
    "                                \"operator\": \"is\",",
    "                                \"tags\": []",
    "                            \x7d,",
    "                            \"script\": \x7b",
    "                                \"source\": \"ctx.results[0].hits.total.value > 0\",",
    "                                \"lang\": \"painless\"",
    "                            \x7d",
    "                        \x7d",
    "                    ]",
    "                \x7d,",
    "                \"monitor_type\": \"doc_level_monitor\",",
    "                \"doc_level_input\": \x7b",
    "                    \"queries\": [",
    "                        \x7b",
    "                            \"field\": \"bytes\",",
    "                            \"query\": 1,",
    "                            \"queryName\": \"test-query\",",
    "                            \"operator\": \"is\",",
    "                            \"tags\": []",
    "                        \x7d",
    "                    ]",
    "                \x7d",
    "            \x7d"]

/-- All registered kinds, sorted by type name. -/
def all : List ToolKind := [createMonitorParameters]

/-- The name under which a kind is registered. -/
def typeName : ToolKind → Text
  | createMonitorParameters => "GetCreateMonitorParametersTool".toText

/-- The kind that is registered under a name. -/
def ofName? (name : Text) : Option ToolKind := all.find? fun k => k.typeName == name

/-- The description of a tool as long as no other is given. -/
def defaultDescription : ToolKind → Text
  | createMonitorParameters => ("\n".intercalate createMonitorLines).toText

/-- The version of a kind; there is none as long as it is not versioned. -/
def version : ToolKind → Option Text
  | createMonitorParameters => none

/-- The name of the factory of a kind. -/
def factoryName (k : ToolKind) : Text := k.typeName ++ "Factory".toText

/-- The name of the input contract of a kind. -/
def contractName : ToolKind → Text
  | createMonitorParameters => "CreateMonitorParametersInput".toText

/-- The name under which a kind writes log records. -/
def logger : ToolKind → Text
  | createMonitorParameters => "opensearch_agent_tools.tools.get_create_monitor_parameters".toText

/-- The wording for a name under which no kind is registered. -/
def unknownMessage (name : Text) : Text := "Unknown tool type: ".toText ++ name

end ToolKind

end MonitorIntake
