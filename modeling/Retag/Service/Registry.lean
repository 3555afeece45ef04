/-
The registry: what is known of each service, as tables of the services that
deviate from the convention. Each fact is total; a service that no table lists,
registered or not, follows the convention.
-/
namespace Retag.Registry

/-- The registered services, in the order in which they were added. -/
def registered : List String :=
  ["accessanalyzer", "acm", "acmpca", "amplify", "apigateway", "apigatewayv2", "appmesh",
   "appstream", "appsync", "athena", "backup", "cloud9", "cloudfront", "cloudhsmv2", "cloudtrail",
   "cloudwatch", "cloudwatchevents", "cloudwatchlogs", "codecommit", "codedeploy", "codepipeline",
   "codestarnotifications", "cognitoidentity", "cognitoidentityprovider", "configservice",
   "databasemigrationservice", "dataexchange", "datapipeline", "datasync", "dax", "devicefarm",
   "directconnect", "directoryservice", "dlm", "docdb", "dynamodb", "ec2", "ecr", "ecs", "efs",
   "eks", "elasticache", "elasticbeanstalk", "elasticsearchservice", "elb", "elbv2", "emr",
   "firehose", "fsx", "gamelift", "glacier", "globalaccelerator", "glue", "guardduty",
   "greengrass", "imagebuilder", "iot", "iotanalytics", "iotevents", "kafka", "kinesis",
   "kinesisanalytics", "kinesisanalyticsv2", "kinesisvideo", "kms", "lambda", "licensemanager",
   "lightsail", "mediaconnect", "mediaconvert", "medialive", "mediapackage", "mediastore", "mq",
   "neptune", "opsworks", "organizations", "pinpoint", "qldb", "quicksight", "ram", "rds",
   "redshift", "resourcegroups", "route53", "route53resolver", "sagemaker", "secretsmanager",
   "securityhub", "sfn", "sns", "sqs", "ssm", "storagegateway", "swf", "transfer", "waf",
   "wafregional", "wafv2"]

/-- The registered services in ascending order. -/
def registeredSorted : List String := registered.mergeSort fun a b => a ≤ b

/-- The entry of a service in a table, or what the convention says. -/
def entry (table : List (String × String)) (conventional service : String) : String :=
  (table.lookup service).getD conventional

/-! ## Operations -/

def tagOperations : List (String × String) :=
  [("acm", "AddTagsToCertificate"), ("acmpca", "TagCertificateAuthority"),
   ("cloudtrail", "AddTags"), ("cloudwatchlogs", "TagLogGroup"),
   ("databasemigrationservice", "AddTagsToResource"), ("datapipeline", "AddTags"),
   ("directoryservice", "AddTagsToResource"), ("docdb", "AddTagsToResource"),
   ("ec2", "CreateTags"), ("elasticache", "AddTagsToResource"),
   ("elasticbeanstalk", "UpdateTagsForResource"), ("elasticsearchservice", "AddTags"),
   ("elb", "AddTags"), ("elbv2", "AddTags"), ("emr", "AddTags"),
   ("firehose", "TagDeliveryStream"), ("glacier", "AddTagsToVault"),
   ("kinesis", "AddTagsToStream"), ("kinesisvideo", "TagStream"), ("medialive", "CreateTags"),
   ("mq", "CreateTags"), ("neptune", "AddTagsToResource"), ("rds", "AddTagsToResource"),
   ("redshift", "CreateTags"), ("resourcegroups", "Tag"), ("route53", "ChangeTagsForResource"),
   ("sagemaker", "AddTags"), ("sqs", "TagQueue"), ("ssm", "AddTagsToResource"),
   ("storagegateway", "AddTagsToResource")]

def untagOperations : List (String × String) :=
  [("acm", "RemoveTagsFromCertificate"), ("acmpca", "UntagCertificateAuthority"),
   ("cloudtrail", "RemoveTags"), ("cloudwatchlogs", "UntagLogGroup"),
   ("databasemigrationservice", "RemoveTagsFromResource"), ("datapipeline", "RemoveTags"),
   ("directoryservice", "RemoveTagsFromResource"), ("docdb", "RemoveTagsFromResource"),
   ("ec2", "DeleteTags"), ("elasticache", "RemoveTagsFromResource"),
   ("elasticbeanstalk", "UpdateTagsForResource"), ("elasticsearchservice", "RemoveTags"),
   ("elb", "RemoveTags"), ("elbv2", "RemoveTags"), ("emr", "RemoveTags"),
   ("firehose", "UntagDeliveryStream"), ("glacier", "RemoveTagsFromVault"),
   ("kinesis", "RemoveTagsFromStream"), ("kinesisvideo", "UntagStream"),
   ("medialive", "DeleteTags"), ("mq", "DeleteTags"), ("neptune", "RemoveTagsFromResource"),
   ("rds", "RemoveTagsFromResource"), ("redshift", "DeleteTags"), ("resourcegroups", "Untag"),
   ("route53", "ChangeTagsForResource"), ("sagemaker", "DeleteTags"), ("sqs", "UntagQueue"),
   ("ssm", "RemoveTagsFromResource"), ("storagegateway", "RemoveTagsFromResource")]

/-- The operation that adds tags or sets their values. -/
def tagOperation (service : String) : String := entry tagOperations "TagResource" service

/-- The operation that removes tags. -/
def untagOperation (service : String) : String := entry untagOperations "UntagResource" service

/-- The most tags that one call takes; zero if there is no limit. -/
def callLimit (service : String) : Nat := if service = "kinesis" then 10 else 0

/-! ## Request fields -/

def identifierFields : List (String × String) :=
  [("acm", "CertificateArn"), ("acmpca", "CertificateAuthorityArn"), ("athena", "ResourceARN"),
   ("cloud9", "ResourceARN"), ("cloudfront", "Resource"), ("cloudhsmv2", "ResourceId"),
   ("cloudtrail", "ResourceId"), ("cloudwatch", "ResourceARN"),
   ("cloudwatchevents", "ResourceARN"), ("cloudwatchlogs", "LogGroupName"),
   ("codestarnotifications", "Arn"), ("datapipeline", "PipelineId"), ("dax", "ResourceName"),
   ("devicefarm", "ResourceARN"), ("directoryservice", "ResourceId"), ("docdb", "ResourceName"),
   ("ec2", "Resources"), ("efs", "ResourceId"), ("elasticache", "ResourceName"),
   ("elasticsearchservice", "ARN"), ("elb", "LoadBalancerNames"), ("elbv2", "ResourceArns"),
   ("emr", "ResourceId"), ("firehose", "DeliveryStreamName"), ("fsx", "ResourceARN"),
   ("gamelift", "ResourceARN"), ("glacier", "VaultName"), ("kinesis", "StreamName"),
   ("kinesisanalytics", "ResourceARN"), ("kinesisanalyticsv2", "ResourceARN"),
   ("kinesisvideo", "StreamARN"), ("kms", "KeyId"), ("lambda", "Resource"),
   ("lightsail", "ResourceName"), ("mediaconvert", "Arn"), ("mediastore", "Resource"),
   ("neptune", "ResourceName"), ("organizations", "ResourceId"), ("ram", "ResourceShareArn"),
   ("rds", "ResourceName"), ("redshift", "ResourceName"), ("resourcegroups", "Arn"),
   ("route53", "ResourceId"), ("secretsmanager", "SecretId"), ("sqs", "QueueUrl"),
   ("ssm", "ResourceId"), ("storagegateway", "ResourceARN"), ("transfer", "Arn"),
   ("waf", "ResourceARN"), ("wafregional", "ResourceARN"), ("wafv2", "ResourceARN")]

/-- The field that names the resource. -/
def identifierField (service : String) : String := entry identifierFields "ResourceArn" service

/-- Whether the field that names the resource takes a list. -/
def identifierIsSequence (service : String) : Bool := ["ec2", "elb", "elbv2"].contains service

def tagsFields : List (String × String) :=
  [("cloudhsmv2", "TagList"), ("cloudtrail", "TagsList"), ("elasticbeanstalk", "TagsToAdd"),
   ("elasticsearchservice", "TagList"), ("glue", "TagsToAdd"), ("pinpoint", "TagsModel"),
   ("route53", "AddTags")]

/-- The field of the tags to add. -/
def tagsField (service : String) : String := entry tagsFields "Tags" service

/-- The field that names the type of the resource, for services whose
identifiers do not say it. -/
def resourceTypeField (service : String) : Option String :=
  if ["route53", "ssm"].contains service then some "ResourceType" else none

def untagTagsFields : List (String × String) :=
  [("acm", "Tags"), ("acmpca", "Tags"), ("backup", "TagKeyList"), ("cloudhsmv2", "TagKeyList"),
   ("cloudtrail", "TagsList"), ("cloudwatchlogs", "Tags"), ("datasync", "Keys"), ("ec2", "Tags"),
   ("elasticbeanstalk", "TagsToRemove"), ("elb", "Tags"), ("glue", "TagsToRemove"),
   ("kinesisvideo", "TagKeyList"), ("resourcegroups", "Keys"), ("route53", "RemoveTagKeys")]

/-- The field of the tags, or tag keys, to remove. -/
def untagTagsField (service : String) : String := entry untagTagsFields "TagKeys" service

/-! ## Payloads -/

/-- Whether whole tags are removed, not keys. -/
def untagTakesTags (service : String) : Bool :=
  ["acm", "acmpca", "cloudtrail", "ec2"].contains service

/-- Whether key objects of the service's own are removed. -/
def untagTakesKeyObjects (service : String) : Bool := service == "elb"

/-- The expression for the tags to add, if the service needs one of its own. -/
def customTagValue (service : String) : Option String :=
  if service = "cloudfront" then
    some ("cloudfront::types::Tags::builder().set_items(Some(updated_tags.ignore_aws()" ++
      ".cloudfront_tags())).build()")
  else if service = "kinesis" then some "updated_tags.ignore_aws().map()"
  else if service = "pinpoint" then
    some ("pinpoint::types::TagsModel::builder().set_tags(Some(updated_tags.ignore_aws()" ++
      ".map())).build().map_err(|err| UpdateTagsError::tagging(identifier, err))?")
  else none

/-- The expression for the tags to remove, if the service needs one of its own. -/
def customUntagValue (service : String) : Option String :=
  if service = "cloudfront" then
    some ("cloudfront::types::TagKeys::builder().set_items(Some(removed_tags.ignore_aws()" ++
      ".keys())).build()")
  else none

/-! ## Names in generated code -/

def packageSuffixes : List (String × String) :=
  [("configservice", "config"), ("databasemigrationservice", "databasemigration"),
   ("directoryservice", "directory"), ("elasticsearchservice", "elasticsearch"),
   ("elb", "elasticloadbalancing"), ("elbv2", "elasticloadbalancingv2")]

/-- The crate with the client of the service. -/
def tagPackage (service : String) : String := "aws_sdk_" ++ entry packageSuffixes service service

/-- Words that cannot stand bare as a name in generated code. -/
def keywords : List String :=
  ["abstract", "as", "async", "await", "become", "box", "break", "const", "continue", "do", "dyn",
   "else", "enum", "extern", "false", "final", "fn", "for", "gen", "if", "impl", "in", "let",
   "loop", "macro", "match", "mod", "move", "mut", "override", "priv", "pub", "ref", "return",
   "static", "struct", "trait", "true", "try", "type", "typeof", "unsafe", "unsized", "use",
   "virtual", "where", "while", "yield"]

/-- Words that cannot stand as a name in any form. -/
def pathKeywords : List String := ["crate", "self", "super"]

/-- The name under which generated code imports the crate: a keyword is written
raw, and the words without a raw form get an underscore. -/
def crateAlias (service : String) : String :=
  if pathKeywords.contains service then service ++ "_"
  else if keywords.contains service then "r#" ++ service
  else service

/-- The type of the client. -/
def clientType (service : String) : String := crateAlias service ++ "::Client"

end Retag.Registry
